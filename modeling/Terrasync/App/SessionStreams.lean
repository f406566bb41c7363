import Terrasync.App.RemoteSession
import Terrasync.Transport.Mux

/-! The streams of a session are the queues that a connection provides: every step of a session puts
messages into them and takes messages out of them as the two ends of a connection do, up to what the
snapshots of its entries leave out. -/

set_option autoImplicit false

namespace Terrasync.App

open Transport
open Transport.Quic (Seen)

namespace RemoteSession

variable {snapshots : Snapshots}

/-- A message of a session as it is read. -/
def asRead (snapshots : Snapshots) (outgoing : Outgoing) : WireSenderMsg :=
  (WireSenderMsg.transfer outgoing.message).image snapshots

@[simp] theorem streamKind_asRead (outgoing : Outgoing) :
    (asRead snapshots outgoing).streamKind = senderStreamKind outgoing.message :=
  WireSenderMsg.streamKind_image ..

/-- What is under way in a session. -/
def streams (snapshots : Snapshots) (session : RemoteSession) : Quic.Streams where
  up := fun kind =>
    match kind with
    | .control => session.control.map (asRead snapshots)
    | .fileList => session.fileList.map (asRead snapshots)
    | .data => session.data.map (asRead snapshots)
    | .ackProgress => []
  down := fun kind =>
    match kind with
    | .fileList => session.requests.map .transfer
    | .ackProgress => session.acks.map .transfer
    | _ => []
  grants := session.grants

/-- A run of the queues from what is under way in one session to what is under way in another. -/
def Flows (snapshots : Snapshots) (session next : RemoteSession) : Prop :=
  ∃ seen, (Quic.Streams.machine snapshots).exec (session.streams snapshots) seen = some (next.streams snapshots)

theorem Flows.same {session next : RemoteSession} (same : next.streams snapshots = session.streams snapshots) :
    Flows snapshots session next := ⟨[], by rw [same]; rfl⟩

theorem Flows.trans {first second third : RemoteSession} (before : Flows snapshots first second)
    (after : Flows snapshots second third) : Flows snapshots first third := by
  obtain ⟨early, run⟩ := before
  obtain ⟨late, later⟩ := after
  exact ⟨early ++ late, Lib.Machine.exec_trans run later⟩

theorem Flows.one {session next : RemoteSession} (event : Seen)
    (stepped : (session.streams snapshots).step snapshots event = some (next.streams snapshots)) :
    Flows snapshots session next :=
  ⟨[event], by simp only [Lib.Machine.exec, Quic.Streams.machine, stepped, Option.bind_some]⟩

theorem streams_eq {first second : Quic.Streams} (up : ∀ kind, first.up kind = second.up kind)
    (down : ∀ kind, first.down kind = second.down kind) (grants : first.grants = second.grants) :
    first = second := by
  obtain ⟨up', down', grants'⟩ := first
  obtain ⟨up'', down'', grants''⟩ := second
  cases funext up
  cases funext down
  cases grants
  rfl

theorem flows_post (session : RemoteSession) (outgoing : Outgoing) :
    Flows snapshots session (session.post outgoing) := by
  apply Flows.one (.sent (.transfer outgoing.message))
  simp only [Quic.Streams.step, Option.some.injEq]
  have here : (WireSenderMsg.transfer outgoing.message).streamKind = senderStreamKind outgoing.message := rfl
  apply streams_eq
  · intro kind
    cases travels : senderStreamKind outgoing.message <;> cases kind <;>
      simp [here, post, travels, streams, asRead]
    cases message : outgoing.message <;> rw [message] at travels <;> cases travels
  · intro kind
    cases travels : senderStreamKind outgoing.message <;> cases kind <;> simp [post, travels, streams]
  · cases travels : senderStreamKind outgoing.message <;> simp [post, travels, streams]

/-- Every message is on the stream of its kind. -/
structure Sorted (snapshots : Snapshots) (session : RemoteSession) : Prop where
  up : ∀ kind, ∀ msg ∈ (session.streams snapshots).up kind, msg.streamKind = kind
  requests : ∀ msg ∈ session.requests, receiverStreamKind msg = .fileList
  acks : ∀ msg ∈ session.acks, receiverStreamKind msg = .ackProgress

theorem sorted_post {session : RemoteSession} (sorted : Sorted snapshots session) (outgoing : Outgoing) :
    Sorted snapshots (session.post outgoing) := by
  refine ⟨fun kind msg member => ?_, ?_, ?_⟩
  · have old := sorted.up kind msg
    cases travels : senderStreamKind outgoing.message <;> cases kind <;>
      simp only [post, travels, streams, List.map_append, List.mem_append, List.map_cons, List.map_nil,
        List.mem_singleton] at member old ⊢
    all_goals first
      | exact old member
      | rcases member with inside | rfl
        · exact old inside
        · rw [streamKind_asRead, travels]
  · cases travels : senderStreamKind outgoing.message <;> simpa only [post, travels] using sorted.requests
  · cases travels : senderStreamKind outgoing.message <;> simpa only [post, travels] using sorted.acks

/-- A message is taken off a stream. -/
theorem take_streams (snapshots : Snapshots) {session taken : RemoteSession} {kind : StreamKind} {outgoing : Outgoing}
    (took : session.take kind = some (outgoing, taken)) :
    (session.streams snapshots).up kind = asRead snapshots outgoing :: (taken.streams snapshots).up kind ∧
      (∀ other, other ≠ kind → (taken.streams snapshots).up other = (session.streams snapshots).up other) ∧
      taken.requests = session.requests ∧ taken.acks = session.acks ∧ taken.grants = session.grants := by
  cases kind with
  | control =>
      simp only [take] at took
      split at took
      next => cases took
      next first rest queue =>
          cases took
          refine ⟨by simp only [streams, queue, List.map_cons], fun other different => ?_, rfl, rfl, rfl⟩
          cases other <;> first | rfl | exact absurd rfl different
  | fileList =>
      simp only [take] at took
      split at took
      next => cases took
      next first rest queue =>
          cases took
          refine ⟨by simp only [streams, queue, List.map_cons], fun other different => ?_, rfl, rfl, rfl⟩
          cases other <;> first | rfl | exact absurd rfl different
  | data =>
      simp only [take] at took
      split at took
      next => cases took
      next first rest queue =>
          cases took
          refine ⟨by simp only [streams, queue, List.map_cons], fun other different => ?_, rfl, rfl, rfl⟩
          cases other <;> first | rfl | exact absurd rfl different
  | ackProgress => cases took

theorem flows_take {session taken : RemoteSession} {kind : StreamKind} {outgoing : Outgoing}
    (sorted : Sorted snapshots session) (took : session.take kind = some (outgoing, taken)) :
    Flows snapshots session taken ∧ Sorted snapshots taken := by
  obtain ⟨first, others, requests, acks, grants⟩ := take_streams snapshots took
  have here : (asRead snapshots outgoing).streamKind = kind :=
    sorted.up kind _ (by rw [first]; exact List.mem_cons_self ..)
  constructor
  · apply Flows.one (.received (asRead snapshots outgoing))
    simp only [Quic.Streams.step, here, first, if_true, Option.some.injEq]
    apply streams_eq
    · intro other
      by_cases same : other = kind
      · subst same
        exact Function.update_self ..
      · exact (Function.update_of_ne same ..).trans (others other same).symm
    · intro other
      cases other <;> simp only [streams, requests, acks]
    · exact grants.symm
  · refine ⟨fun other msg member => ?_, requests ▸ sorted.requests, acks ▸ sorted.acks⟩
    by_cases same : other = kind
    · subst same
      exact sorted.up other msg (by rw [first]; exact List.mem_cons_of_mem _ member)
    · exact sorted.up other msg (others other same ▸ member)

/-- One reply more. -/
theorem reply_cons (session : RemoteSession) (receiver : Receiver) (msg : ReceiverMsg)
    (replies : List ReceiverMsg) :
    session.reply (receiver, msg :: replies) = (session.reply (receiver, [msg])).reply (receiver, replies) := by
  simp only [reply, ← List.filter_append, ← List.filterMap_append, List.append_assoc]
  rfl

theorem grant_transfer (msg : ReceiverMsg) : (WireReceiverMsg.transfer msg).grant = grantBytes msg := by
  cases msg <;> rfl

/-- A reply is a request or an acknowledgement, and every grant goes with the acknowledgements. -/
theorem reply_kind (msg : ReceiverMsg) :
    (receiverStreamKind msg = .fileList ∧ grantBytes msg = none) ∨ receiverStreamKind msg = .ackProgress := by
  cases msg <;> first | exact .inl ⟨rfl, rfl⟩ | exact .inr rfl

theorem flows_reply_one (session : RemoteSession) (receiver : Receiver) (msg : ReceiverMsg) :
    Flows snapshots session (session.reply (receiver, [msg])) := by
  apply Flows.one (.replied (.transfer msg))
  have here : (WireReceiverMsg.transfer msg).streamKind = receiverStreamKind msg := rfl
  simp only [Quic.Streams.step, grant_transfer, here]
  rcases reply_kind msg with ⟨request, ordinary⟩ | ack
  · simp only [ordinary, request, Option.some.injEq]
    apply streams_eq
    · exact fun _ => rfl
    · intro kind
      cases kind <;> simp [reply, streams, isRequest, isAck, request]
    · simp [reply, streams, ordinary]
  · cases grant : grantBytes msg with
    | some bytes =>
        simp only [Option.some.injEq]
        apply streams_eq
        · exact fun _ => rfl
        · intro kind
          cases kind <;> simp [reply, streams, isRequest, isAck, ack, grant]
        · simp [reply, streams, grant]
    | none =>
        simp only [ack, Option.some.injEq]
        apply streams_eq
        · exact fun _ => rfl
        · intro kind
          cases kind <;> simp [reply, streams, isRequest, isAck, ack, grant]
        · simp [reply, streams, grant]

theorem flows_reply (session : RemoteSession) (receiver : Receiver) (replies : List ReceiverMsg) :
    Flows snapshots session (session.reply (receiver, replies)) := by
  induction replies generalizing session with
  | nil =>
      apply Flows.same
      simp [reply, streams]
  | cons msg rest ih =>
      rw [reply_cons]
      exact (flows_reply_one session receiver msg).trans (ih _)

theorem sorted_reply {session : RemoteSession} (sorted : Sorted snapshots session)
    (stepped : Receiver × List ReceiverMsg) : Sorted snapshots (session.reply stepped) := by
  refine ⟨sorted.up, fun msg member => ?_, fun msg member => ?_⟩
  · rcases List.mem_append.mp member with old | fresh
    · exact sorted.requests msg old
    · exact of_decide_eq_true (List.mem_filter.mp fresh).2
  · rcases List.mem_append.mp member with old | fresh
    · exact sorted.acks msg old
    · have ack := (List.mem_filter.mp fresh).2
      rcases reply_kind msg with ⟨request, -⟩ | same
      · simp [isAck, request] at ack
      · exact same

/-- The fields outside the streams. -/
theorem flows_owner {session : RemoteSession} (sorted : Sorted snapshots session) (sender : RemoteSenderSession)
    (linked : List Ndx) :
    Flows snapshots session { session with sender, linked } ∧ Sorted snapshots { session with sender, linked } :=
  ⟨Flows.same rfl, sorted.up, sorted.requests, sorted.acks⟩

theorem flows_receiverStep {config : RemoteConfig} {session next : RemoteSession} {action : ReceiverAction}
    (sorted : Sorted snapshots session) (stepped : session.receiverStep config action = some next) :
    Flows snapshots session next ∧ Sorted snapshots next := by
  obtain ⟨⟨receiver, replies⟩, -, rfl⟩ := Option.map_eq_some_iff.mp stepped
  exact ⟨flows_reply session receiver replies, sorted_reply sorted _⟩

theorem flows_serve {config : RemoteConfig} {session next : RemoteSession} {kind : StreamKind}
    {answers : SourceAnswers} (sorted : Sorted snapshots session)
    (served : session.serve config kind answers = some next) :
    Flows snapshots session next ∧ Sorted snapshots next := by
  unfold serve at served
  split at served
  next => cases served
  next =>
      split at served
      next msg requests queue =>
          cases served
          have here : (WireReceiverMsg.transfer msg).streamKind = .fileList :=
            sorted.requests msg (by rw [queue]; exact List.mem_cons_self ..)
          refine ⟨Flows.one (.heard (.transfer msg)) ?_, sorted.up, fun other member => ?_, sorted.acks⟩
          · simp only [Quic.Streams.step, here, streams, queue, List.map_cons, if_true, Option.some.injEq]
            apply streams_eq
            · exact fun _ => rfl
            · intro other
              cases other <;> rfl
            · rfl
          · exact sorted.requests other (by rw [queue]; exact List.mem_cons_of_mem _ member)
      next msg acks queue =>
          cases served
          have here : (WireReceiverMsg.transfer msg).streamKind = .ackProgress :=
            sorted.acks msg (by rw [queue]; exact List.mem_cons_self ..)
          refine ⟨Flows.one (.heard (.transfer msg)) ?_, sorted.up, sorted.requests, fun other member => ?_⟩
          · simp only [Quic.Streams.step, here, streams, queue, List.map_cons, if_true, Option.some.injEq]
            apply streams_eq
            · exact fun _ => rfl
            · intro other
              cases other <;> rfl
            · rfl
          · exact sorted.acks other (by rw [queue]; exact List.mem_cons_of_mem _ member)
      next => cases served

/-- A step of a session is a run of the queues. -/
theorem flows_step {config : RemoteConfig} {session next : RemoteSession} {action : RemoteAction}
    (sorted : Sorted snapshots session) (stepped : (machine config).step session action = some next) :
    Flows snapshots session next ∧ Sorted snapshots next := by
  have stepped : step config session action = some next := stepped
  cases action with
  | advertise =>
      obtain ⟨⟨sender, msg⟩, -, rfl⟩ := Option.map_eq_some_iff.mp stepped
      obtain ⟨flows, sorted⟩ := flows_owner sorted sender session.linked
      exact ⟨flows.trans (flows_post _ _), sorted_post sorted _⟩
  | serve kind answers => exact flows_serve sorted stepped
  | send =>
      obtain ⟨⟨sender, sent⟩, -, rfl⟩ := Option.map_eq_some_iff.mp stepped
      obtain ⟨flows, sorted⟩ := flows_owner sorted sender session.linked
      cases sent with
      | none => exact ⟨flows, sorted⟩
      | some outgoing => exact ⟨flows.trans (flows_post _ _), sorted_post sorted _⟩
  | applyGrant =>
      simp only [step, applyGrant] at stepped
      split at stepped
      next => cases stepped
      next bytes grants queue =>
          cases stepped
          refine ⟨Flows.one (.granted bytes) ?_, sorted.up, sorted.requests, sorted.acks⟩
          simp only [Quic.Streams.step, streams, queue, if_true]
  | receive kind answers =>
      simp only [step, receive] at stepped
      split at stepped
      next => cases stepped
      next outgoing taken took =>
          obtain ⟨flows, sorted⟩ := flows_take sorted took
          obtain ⟨same, sorted⟩ := flows_owner sorted taken.sender (taken.linked ++ (linkNdx outgoing).toList)
          obtain ⟨replied, sorted⟩ := flows_receiverStep sorted stepped
          exact ⟨(flows.trans same).trans replied, sorted⟩
  | disconnect => exact flows_receiverStep sorted stepped
  | acknowledge => exact flows_receiverStep sorted stepped
  | commit answers => exact flows_receiverStep sorted stepped
  | drain => exact flows_receiverStep sorted stepped

/-- A whole session is a run of the queues of a connection, from empty ones on. -/
theorem session_runs_on_streams {config : RemoteConfig} {inventory : List NdxEvent}
    {senderCredit : SenderCreditLedger} {receiverCredit : ReceiverCreditState} {actions : List RemoteAction}
    {final : RemoteSession}
    (run : (machine config).exec (new inventory senderCredit receiverCredit) actions = some final) :
    ∃ seen, (Quic.Streams.machine snapshots).exec .empty seen = some (final.streams snapshots) := by
  have start : Quic.Streams.empty = (new inventory senderCredit receiverCredit).streams snapshots := by
    apply streams_eq
    · intro kind
      cases kind <;> rfl
    · intro kind
      cases kind <;> rfl
    · rfl
  have sorted : Sorted snapshots (new inventory senderCredit receiverCredit) := by
    refine ⟨fun kind msg member => ?_, fun msg member => ?_, fun msg member => ?_⟩
    · cases kind <;> cases member
    · cases member
    · cases member
  rw [start]
  have kept : Flows snapshots (new inventory senderCredit receiverCredit) final ∧ Sorted snapshots final := by
    apply Lib.Machine.exec_invariant _ _ run
    · intro state action next holds stepped
      obtain ⟨flows, sorted⟩ := flows_step holds.2 stepped
      exact ⟨holds.1.trans flows, sorted⟩
    · exact ⟨Flows.same rfl, sorted⟩
  exact kept.1

end RemoteSession

end Terrasync.App
