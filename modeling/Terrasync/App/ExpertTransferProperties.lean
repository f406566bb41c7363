import Terrasync.App.ExpertTransfer
import Mathlib.Data.List.Basic

/-! What the payload exchange delivers. The source side frames the remaining bytes as
`payloadEvents`; the destination side accepts exactly such framings, so the bytes it
forwards continue the durable prefix and end with the source, and the credit it
returns is what it forwarded. -/

set_option autoImplicit false

namespace Terrasync.App.ExpertTransfer

open Transport (ReceiverCreditState SessionNdx Digest SourceQosSnapshot RemoteTransferFailure RemoteSourceEvent
  RemoteTransferTerminal)

variable {F : Type}

theorem checkedAdd_of_lt {left right : Nat} (fits : left + right < 2 ^ 64) :
    checkedAdd left right = some (left + right) := if_pos fits

theorem endsBeyond_eq_false {offset length sourceSize : Nat} (within : endsBeyond offset length sourceSize = false) :
    offset + length ≤ sourceSize := by
  unfold endsBeyond checkedAdd at within
  split at within
  · cases within
  · next stop sum =>
      split at sum
      · cases sum
        simpa using within
      · cases sum

theorem endsBeyond_of_le {offset length sourceSize : Nat} (within : offset + length ≤ sourceSize)
    (sized : sourceSize < 2 ^ 64) : endsBeyond offset length sourceSize = false := by
  unfold endsBeyond
  rw [checkedAdd_of_lt (by omega)]
  simpa using within

/-! ## Cutting a chunk -/

theorem flatten_splitFrom {bytes : Bytes} {maximum : Nat} (positive : 0 < maximum)
    (sized : bytes.length < 2 ^ 64) (start : Nat) :
    (splitFrom bytes maximum start).flatten = bytes.drop start := by
  induction start using splitFrom.induct bytes maximum with
  | case1 start stop advances ih =>
      have stopLe : stop ≤ bytes.length := Nat.min_le_right _ _
      have cut : bytes.drop start = (bytes.take stop).drop start ++ bytes.drop stop := by
        conv_lhs => rw [← List.take_append_drop stop bytes]
        refine List.drop_append_of_le_length ?_
        rw [List.length_take]
        omega
      rw [splitFrom, if_pos advances, List.flatten_cons, ih, cut]
  | case2 start stop stays =>
      have ended : bytes.length ≤ start := by
        have stopIs : stop = min (saturatingAdd start maximum) bytes.length := rfl
        unfold saturatingAdd at stopIs
        omega
      rw [splitFrom, if_neg stays, List.drop_eq_nil_of_le ended, List.flatten_nil]

theorem mem_splitFrom {bytes part : Bytes} {maximum start : Nat}
    (member : part ∈ splitFrom bytes maximum start) : part ≠ [] ∧ part.length ≤ maximum := by
  induction start using splitFrom.induct bytes maximum with
  | case1 start stop advances ih =>
      rw [splitFrom, if_pos advances] at member
      rcases List.mem_cons.mp member with rfl | later
      · have stopLe : stop ≤ bytes.length := Nat.min_le_right _ _
        have stopBound : stop ≤ start + maximum :=
          Nat.le_trans (Nat.min_le_left _ _) (Nat.min_le_left _ _)
        have measured : ((bytes.take stop).drop start).length = stop - start := by
          rw [List.length_drop, List.length_take, Nat.min_eq_left stopLe]
        refine ⟨fun empty => ?_, ?_⟩
        · have none_left := congrArg List.length empty
          rw [measured, List.length_nil] at none_left
          omega
        · rw [measured]
          omega
      · exact ih later
  | case2 start stop stays =>
      rw [splitFrom, if_neg stays] at member
      cases member

theorem flatten_splitBytes {bytes : Bytes} {maximum : Nat} (positive : 0 < maximum)
    (sized : bytes.length < 2 ^ 64) : (splitBytes bytes maximum).flatten = bytes :=
  flatten_splitFrom positive sized 0

/-! ## The framing -/

/-- One `Payload` event for each part, each at the offset where the one before ends. -/
def payloadEvents (ndx : SessionNdx) : Nat → List Bytes → List SenderMsg
  | _, [] => []
  | offset, part :: rest =>
      .remoteSource (.payload ndx offset part) :: payloadEvents ndx (offset + part.length) rest

theorem payloadEvents_append (ndx : SessionNdx) (offset : Nat) (parts others : List Bytes) :
    payloadEvents ndx offset (parts ++ others) =
      payloadEvents ndx offset parts ++ payloadEvents ndx (offset + parts.flatten.length) others := by
  induction parts generalizing offset with
  | nil => rfl
  | cons part rest ih => simp [payloadEvents, ih, Nat.add_assoc]

def completedEvent (ndx : SessionNdx) (evidence : ExpertSourceEvidence) : SenderMsg :=
  .remoteSource (.completed ndx evidence.sourceSize evidence.blake3 evidence.identityKey evidence.sourceQos)

/-! ## Running the source side -/

/-- `action` takes the wire to `next` and returns `value`. -/
def Returns {α : Type} (action : Serve F α) (wire next : Wire) (value : α) : Prop :=
  action.run.run wire = (.ok value, next)

def Wire.Open (wire : Wire) : Prop := ∀ position, wire.refuses position = none

/-- The answers of the transport do not depend on what was sent or received. -/
theorem Wire.Open.with_refuses {wire : Wire} (isOpen : wire.Open) (incoming : List ReceiverMsg)
    (sent : List SenderMsg) : Wire.Open { wire with incoming, sent } := isOpen

theorem Returns.run_bind {α β : Type} {action : Serve F α} {wire next : Wire} {value : α}
    (returns : Returns action wire next value) (rest : α → Serve F β) :
    (action >>= rest).run.run wire = (rest value).run.run next := by
  unfold Returns at returns
  simp only [ExceptT.run_bind, StateT.run_bind, returns]
  rfl

theorem Returns.bind {α β : Type} {action : Serve F α} {wire middle next : Wire} {value : α}
    {rest : α → Serve F β} {result : β} (first : Returns action wire middle value)
    (second : Returns (rest value) middle next result) : Returns (action >>= rest) wire next result :=
  (first.run_bind rest).trans second

theorem returns_pure {α : Type} (wire : Wire) (value : α) :
    Returns (pure value : Serve F α) wire wire value := rfl

theorem returns_recv (wire : Wire) :
    Returns (recv : Serve F _) wire { wire with incoming := wire.incoming.tail }
      wire.incoming.head? := rfl

theorem returns_send {wire : Wire} (isOpen : wire.Open) (message : SenderMsg) :
    Returns (send message : Serve F Unit) wire
      { wire with sent := wire.sent ++ [message] } () := by
  have granted := isOpen wire.sent.length
  have here : Returns (get : Serve F Wire) wire wire wire := rfl
  unfold send
  refine here.bind ?_
  rw [granted]
  rfl

theorem returns_ofExcept {α : Type} {answer : Except (AppError F) α} {value : α}
    (ok : answer = .ok value) (wire : Wire) :
    Returns (MonadExcept.ofExcept answer : Serve F α) wire wire value := by
  rw [ok]
  rfl

/-- A check that returns nothing leaves the wire as it is, whatever it answers. -/
theorem run_check {α β : Type} (answer : Except (AppError F) α) (value : β) (wire : Wire) :
    (((MonadExcept.ofExcept answer : Serve F α) >>= fun _ => pure value).run.run wire).2 = wire := by
  cases answer <;> rfl

theorem returns_transferFailure {α : Type} {answer : Except F α} {value : α}
    (ok : answer = .ok value) (ndx : SessionNdx) (wire : Wire) :
    Returns (transferFailure ndx answer) wire wire value := by
  rw [ok]
  rfl

theorem returns_sendParts (ndx : SessionNdx) (parts : List Bytes) {offset : Nat} {wire : Wire}
    (isOpen : wire.Open) (fits : offset + parts.flatten.length < 2 ^ 64) :
    Returns (sendParts ndx parts offset : Serve F Nat) wire
      { wire with sent := wire.sent ++ payloadEvents ndx offset parts }
      (offset + parts.flatten.length) := by
  induction parts generalizing offset wire with
  | nil => simp [sendParts, payloadEvents, returns_pure]
  | cons part rest ih =>
      rw [List.flatten_cons, List.length_append] at fits ⊢
      unfold sendParts
      refine (returns_send isOpen _).bind ?_
      rw [checkedAdd_of_lt (by omega)]
      have remaining := @ih (offset + part.length)
        { wire with sent := wire.sent ++ [.remoteSource (.payload ndx offset part)] } isOpen (by omega)
      simpa only [payloadEvents, List.append_assoc, List.singleton_append, Nat.add_assoc] using remaining

/-- What the whole stream sends is the framing of its chunks, cut. -/
theorem returns_sendChunks (ndx : SessionNdx) {requestedChunk : Nat} (positive : 0 < requestedChunk)
    (chunks : List Bytes) {offset : Nat} {wire : Wire} (isOpen : wire.Open)
    (fits : offset + chunks.flatten.length < 2 ^ 64) :
    Returns (sendChunks ndx requestedChunk chunks offset : Serve F Nat) wire
      { wire with sent := wire.sent ++
          payloadEvents ndx offset (chunks.flatMap (splitBytes · requestedChunk)) }
      (offset + chunks.flatten.length) := by
  induction chunks generalizing offset wire with
  | nil => simp [sendChunks, payloadEvents, returns_pure]
  | cons chunk rest ih =>
      rw [List.flatten_cons, List.length_append] at fits ⊢
      have whole : (splitBytes chunk requestedChunk).flatten = chunk :=
        flatten_splitBytes positive (by omega)
      unfold sendChunks
      refine (returns_sendParts ndx (splitBytes chunk requestedChunk) isOpen
        (by rw [whole]; omega)).bind ?_
      have remaining := @ih (offset + (splitBytes chunk requestedChunk).flatten.length)
        { wire with sent := wire.sent ++ payloadEvents ndx offset (splitBytes chunk requestedChunk) }
        isOpen (by rw [whole]; omega)
      rw [whole] at remaining ⊢
      simpa only [List.flatMap_cons, payloadEvents_append, whole, List.append_assoc, Nat.add_assoc]
        using remaining

/-- The parts of a cut stream hold its bytes. -/
theorem flatten_flatMap_splitBytes {requestedChunk : Nat} (positive : 0 < requestedChunk)
    (chunks : List Bytes) (fits : chunks.flatten.length < 2 ^ 64) :
    (chunks.flatMap (splitBytes · requestedChunk)).flatten = chunks.flatten := by
  induction chunks with
  | nil => rfl
  | cons chunk rest ih =>
      rw [List.flatten_cons, List.length_append] at fits
      rw [List.flatMap_cons, List.flatten_append, ih (by omega),
        flatten_splitBytes positive (by omega), List.flatten_cons]

/-- A source file served on request: the session offers the size of `source` and streams
what follows the durable prefix in the chunks of `payload`. -/
structure Streams (source : Bytes) (receipt : PayloadReceipt) (session : ExpertSourceSession F)
    (payload : SourcePayload F) (evidence : ExpertSourceEvidence) : Prop where
  sized : source.length < 2 ^ 64
  expected : receipt.sourceSize = source.length
  durable : receipt.durablePrefix ≤ source.length
  limited : 1 ≤ receipt.maximumChunkBytes
  offered : session.offer.sourceSize = source.length
  streamed : session.streamFrom receipt.durablePrefix = .ok payload
  divided : payload.chunks.flatten = source.drop receipt.durablePrefix
  finished : payload.finish = .ok evidence
  evidenceSize : evidence.sourceSize = source.length
  evidenceIdentity : evidence.identityKey = receipt.identityKey

def offerEvent (ndx : SessionNdx) (offer : SourceOffer) : SenderMsg :=
  .remoteSource (.offer ndx offer.sourceSize offer.maximumChunkBytes offer.identityKey)

theorem Streams.served {source : Bytes} {receipt : PayloadReceipt} {session : ExpertSourceSession F}
    {payload : SourcePayload F} {evidence : ExpertSourceEvidence}
    (streams : Streams source receipt session payload evidence) {wire : Wire} (isOpen : wire.Open)
    {later : List ReceiverMsg} (asked : wire.incoming = .transferRequested receipt.ndx ::
      .payloadRequested receipt.ndx receipt.durablePrefix receipt.maximumChunkBytes :: later) :
    ((serveRemoteSourceInner receipt.ndx (.ok session)).run.run wire).2.sent = wire.sent ++
      offerEvent receipt.ndx session.offer :: (payloadEvents receipt.ndx receipt.durablePrefix
        (payload.chunks.flatMap (splitBytes · receipt.maximumChunkBytes)) ++
          [completedEvent receipt.ndx evidence]) := by
  have remaining : receipt.durablePrefix + payload.chunks.flatten.length < 2 ^ 64 := by
    have sized := streams.sized
    have durable := streams.durable
    rw [streams.divided, List.length_drop]
    omega
  have agreed : expectPayloadRequest (F := F) receipt.ndx session.offer.sourceSize
      (some (.payloadRequested receipt.ndx receipt.durablePrefix receipt.maximumChunkBytes)) =
        .ok (receipt.durablePrefix, receipt.maximumChunkBytes) := by
    have durable := streams.durable
    have limited := streams.limited
    rw [expectPayloadRequest, if_neg]
    rintro (other | beyond | zero)
    · exact other rfl
    · rw [streams.offered] at beyond
      omega
    · omega
  have greeted : expectTransferRequest (F := F) receipt.ndx wire.incoming.head? = .ok () := by
    rw [asked]
    exact if_pos rfl
  unfold serveRemoteSourceInner
  rw [(returns_recv wire).run_bind, (returns_ofExcept greeted _).run_bind,
    (returns_transferFailure rfl receipt.ndx _).run_bind]
  simp only []
  rw [(returns_send (isOpen.with_refuses _ _) _).run_bind, (returns_recv _).run_bind]
  simp only [asked, List.tail_cons, List.head?_cons]
  rw [(returns_ofExcept agreed _).run_bind]
  simp only []
  rw [(returns_transferFailure streams.streamed receipt.ndx _).run_bind,
    (returns_sendChunks receipt.ndx streams.limited payload.chunks
      (isOpen.with_refuses _ _) remaining).run_bind,
    (returns_transferFailure streams.finished receipt.ndx _).run_bind,
    (returns_send (isOpen.with_refuses _ _) _).run_bind, (returns_recv _).run_bind]
  rw [run_check]
  simp only [offerEvent, completedEvent, List.append_assoc, List.cons_append, List.nil_append]

/-! ## Running the destination side -/

/-- `run` changes the credit account of `state` only: on success `bytes` more are granted or
waiting to be, and only the transport can fail it. -/
structure Accounts (state : Receiving) (bytes : Nat) (run : Receiving × Except (AppError F) Unit) :
    Prop where
  forwarded : run.1.forwarded = state.forwarded
  expectedOffset : run.1.expectedOffset = state.expectedOffset
  credited : run.2 = .ok () → run.1.grants.sum + run.1.credit.acceptedPending =
    state.grants.sum + state.credit.acceptedPending + bytes
  failed : ∀ error, run.2 = .error error → ∃ refused, error = .transport refused

theorem Accounts.error (state : Receiving) (bytes : Nat) (error : Transport.TransportError) :
    Accounts (F := F) state bytes (state, .error (.transport error)) := by
  refine ⟨rfl, rfl, (fun settled => nomatch settled), fun _ same => ?_⟩
  cases same
  exact ⟨error, rfl⟩

theorem sendGrant_accounts (peers : Peers) (state : Receiving) (bytes : Nat) :
    Accounts (F := F) state bytes (state.sendGrant peers bytes) := by
  unfold Receiving.sendGrant
  split
  · exact .error state bytes _
  · refine ⟨rfl, rfl, fun _ => ?_, fun _ same => by cases same⟩
    simp only [List.sum_append, List.sum_singleton]
    omega

theorem accepted_accounts (peers : Peers) (state : Receiving) (bytes : Nat) :
    Accounts (F := F) state bytes (state.accepted peers bytes) := by
  unfold Receiving.accepted ReceiverCreditState.recordAccepted
  by_cases overflow : 2 ^ 64 ≤ state.credit.acceptedPending + bytes
  · rw [if_pos overflow]
    exact .error state bytes _
  rw [if_neg overflow]
  by_cases below : state.credit.acceptedPending + bytes < state.credit.grantThreshold
  · rw [if_pos below]
    exact ⟨rfl, rfl, fun _ => (Nat.add_assoc _ _ _).symm, fun _ same => by cases same⟩
  · rw [if_neg below]
    have sent := sendGrant_accounts (F := F) peers
      { state with credit := { state.credit with acceptedPending := 0 } }
      (state.credit.acceptedPending + bytes)
    refine ⟨sent.forwarded, sent.expectedOffset, fun settled => ?_, sent.failed⟩
    have credited := sent.credited settled
    simp only at credited ⊢
    omega

/-- What an exit of the loop reports and returns: the writer has what it had, and either
all accepted bytes are granted back or the transport refused the grant. -/
structure Exits {α : Type} (state : Receiving) (result : Except (AppError F) α)
    (run : Receiving × Except (AppError F) α) : Prop where
  forwarded : run.1.forwarded = state.forwarded
  settled : run.2 = result ∧
      run.1.grants.sum = state.grants.sum + state.credit.acceptedPending ∨
    ∃ error, run.2 = .error (.transport error)

theorem leave_exits {α : Type} (peers : Peers) (state : Receiving) (result : Except (AppError F) α) :
    Exits state result (state.leave peers result) := by
  unfold Receiving.leave Receiving.flush ReceiverCreditState.takePendingGrant
  by_cases pending : 0 < state.credit.acceptedPending
  · rw [if_pos pending]
    simp only [Receiving.sendGrant]
    cases peers.refuses state.grants.length with
    | none => exact ⟨rfl, .inl ⟨rfl, by simp⟩⟩
    | some error => exact ⟨rfl, .inr ⟨error, rfl⟩⟩
  · rw [if_neg pending]
    exact ⟨rfl, .inl ⟨rfl, show state.grants.sum = _ by omega⟩⟩

/-- Transport and writer answer every request. -/
structure Peers.Open (peers : Peers) : Prop where
  grants : ∀ position, peers.refuses position = none
  writes : ∀ position, peers.accepts position = true

theorem Peers.Open.leave {peers : Peers} (isOpen : peers.Open) {α : Type} (state : Receiving)
    (result : Except (AppError F) α) : (state.leave peers result).2 = result := by
  unfold Receiving.leave Receiving.flush Receiving.sendGrant
  cases state.credit.takePendingGrant with
  | mk credit granted =>
      cases granted with
      | none => rfl
      | some bytes =>
          simp only [isOpen.grants]

theorem Peers.Open.accepted {peers : Peers} (isOpen : peers.Open) (state : Receiving) {bytes : Nat}
    (fits : state.credit.acceptedPending + bytes < 2 ^ 64) :
    (state.accepted (F := F) peers bytes).2 = .ok () ∧
      (state.accepted (F := F) peers bytes).1.credit.acceptedPending ≤
        state.credit.acceptedPending + bytes := by
  unfold Receiving.accepted ReceiverCreditState.recordAccepted Receiving.sendGrant
  rw [if_neg (by omega)]
  by_cases below : state.credit.acceptedPending + bytes < state.credit.grantThreshold
  · rw [if_pos below]
    exact ⟨rfl, Nat.le_refl _⟩
  · rw [if_neg below]
    simp only [isOpen.grants]
    exact ⟨trivial, Nat.zero_le _⟩

/-! ## What the loop forwards -/

/-- From `state` on the loop forwards `parts` and stops before `rest`: the messages it
reads are their framing at the expected offset; unless the transport failed all of their
bytes are granted back; and it succeeds only at the end of the source, on the matching
completion. -/
structure Delivers (receipt : PayloadReceipt) (messages : List SenderMsg) (state : Receiving)
    (parts : List Bytes) (rest : List SenderMsg)
    (run : Receiving × Except (AppError F) ExpertSourceEvidence) : Prop where
  framed : messages = payloadEvents receipt.ndx state.expectedOffset parts ++ rest
  bounded : ∀ part ∈ parts, part ≠ [] ∧ part.length ≤ receipt.maximumChunkBytes
  within : state.expectedOffset ≤ receipt.sourceSize →
    state.expectedOffset + parts.flatten.length ≤ receipt.sourceSize
  forwarded : run.1.forwarded = state.forwarded ++ parts
  granted : run.1.grants.sum = state.grants.sum + state.credit.acceptedPending + parts.flatten.length ∨
    ∃ error, run.2 = .error (.transport error)
  completed : ∀ evidence, run.2 = .ok evidence →
    state.expectedOffset + parts.flatten.length = receipt.sourceSize ∧
    evidence.sourceSize = receipt.sourceSize ∧ evidence.identityKey = receipt.identityKey ∧
    ∃ unread, rest = completedEvent receipt.ndx evidence :: unread

/-- Every exit other than the matching completion forwards nothing more. -/
theorem Delivers.left (peers : Peers) (receipt : PayloadReceipt) (messages : List SenderMsg)
    (state : Receiving) (error : AppError F) :
    Delivers receipt messages state [] messages (state.leave peers (.error error)) := by
  have exits := leave_exits (α := ExpertSourceEvidence) peers state (.error error)
  refine ⟨rfl, by simp, by simp, by simpa using exits.forwarded, ?_, fun evidence succeeded => ?_⟩
  · rcases exits.settled with ⟨_, granted⟩ | failed
    · exact .inl (by simpa using granted)
    · exact .inr failed
  · rcases exits.settled with ⟨same, _⟩ | ⟨refused, same⟩ <;> rw [succeeded] at same <;> cases same

theorem Delivers.ended (peers : Peers) {receipt : PayloadReceipt} {state : Receiving}
    (atEnd : state.expectedOffset = receipt.sourceSize) (blake3 : Digest)
    (sourceQos : SourceQosSnapshot) (unread : List SenderMsg) :
    Delivers (F := F) receipt (.remoteSource (.completed receipt.ndx receipt.sourceSize blake3
        receipt.identityKey sourceQos) :: unread) state []
      (.remoteSource (.completed receipt.ndx receipt.sourceSize blake3 receipt.identityKey sourceQos) ::
        unread)
      (state.leave peers (.ok ⟨receipt.sourceSize, blake3, receipt.identityKey, sourceQos⟩)) := by
  have exits := leave_exits (F := F) peers state
    (.ok (ExpertSourceEvidence.mk receipt.sourceSize blake3 receipt.identityKey sourceQos))
  refine ⟨rfl, by simp, by simp, by simpa using exits.forwarded, ?_, fun evidence succeeded => ?_⟩
  · rcases exits.settled with ⟨_, granted⟩ | failed
    · exact .inl (by simpa using granted)
    · exact .inr failed
  · rcases exits.settled with ⟨same, _⟩ | ⟨refused, same⟩ <;> rw [succeeded] at same <;> cases same
    exact ⟨by simpa using atEnd, rfl, rfl, unread, rfl⟩

section Chunk

variable {receipt : PayloadReceipt} {state next : Receiving} {data : Bytes} {messages : List SenderMsg}
  (nonempty : data ≠ []) (short : data.length ≤ receipt.maximumChunkBytes)
  (inside : state.expectedOffset + data.length ≤ receipt.sourceSize)

include nonempty short inside

/-- The writer took the chunk, and the grant that was due could not be sent. -/
theorem Delivers.refused {error : AppError F}
    (accounts : Accounts { state with forwarded := state.forwarded ++ [data] } data.length
      (next, .error error)) :
    Delivers receipt (.remoteSource (.payload receipt.ndx state.expectedOffset data) :: messages) state
      [data] messages (next, .error error) := by
  obtain ⟨refused, rfl⟩ := accounts.failed error rfl
  refine ⟨rfl, ?_, fun _ => by simpa using inside, accounts.forwarded, .inr ⟨refused, rfl⟩,
    fun evidence succeeded => by cases succeeded⟩
  intro part member
  obtain rfl := List.mem_singleton.mp member
  exact ⟨nonempty, short⟩

/-- One accepted chunk, then what the loop delivers from there. -/
theorem Delivers.chunk {parts : List Bytes} {rest : List SenderMsg}
    {run : Receiving × Except (AppError F) ExpertSourceEvidence}
    (accounts : Accounts (F := F) { state with forwarded := state.forwarded ++ [data] }
      data.length (next, .ok ()))
    (remaining : Delivers receipt messages
      { next with expectedOffset := next.expectedOffset + data.length } parts rest run) :
    Delivers receipt (.remoteSource (.payload receipt.ndx state.expectedOffset data) :: messages) state
      (data :: parts) rest run := by
  have advanced : next.expectedOffset = state.expectedOffset := accounts.expectedOffset
  have credited := accounts.credited rfl
  refine ⟨?_, ?_, fun _ => ?_, ?_, ?_, fun evidence succeeded => ?_⟩
  · have framed := remaining.framed
    simp only [advanced] at framed
    rw [framed]
    rfl
  · intro part member
    rcases List.mem_cons.mp member with rfl | later
    · exact ⟨nonempty, short⟩
    · exact remaining.bounded part later
  · have within := remaining.within
    simp only [advanced, List.flatten_cons, List.length_append] at within ⊢
    omega
  · rw [remaining.forwarded, accounts.forwarded, List.append_assoc]
    rfl
  · rcases remaining.granted with granted | failed
    · left
      simp only [List.flatten_cons, List.length_append] at granted credited ⊢
      omega
    · exact .inr failed
  · obtain ⟨atEnd, same⟩ := remaining.completed evidence succeeded
    simp only [advanced, List.flatten_cons, List.length_append] at atEnd ⊢
    exact ⟨by omega, same⟩

end Chunk

theorem receiveLoop_delivers (peers : Peers) (receipt : PayloadReceipt) (messages : List SenderMsg)
    (state : Receiving) :
    ∃ parts rest, Delivers (F := F) receipt messages state parts rest
      (receiveLoop peers receipt messages state) := by
  induction messages generalizing state with
  | nil => exact ⟨[], [], .left peers receipt [] state _⟩
  | cons message messages ih =>
      cases message with
      | other => exact ⟨[], _, .left peers receipt _ state _⟩
      | remoteSource event =>
          cases event with
          | offer => exact ⟨[], _, .left peers receipt _ state _⟩
          | failed received failure =>
              rw [receiveLoop]
              split <;> exact ⟨[], _, .left peers receipt _ state _⟩
          | cancelled received =>
              rw [receiveLoop]
              split <;> exact ⟨[], _, .left peers receipt _ state _⟩
          | completed received sourceSize blake3 identityKey sourceQos =>
              rw [receiveLoop]
              split
              · exact ⟨[], _, .left peers receipt _ state _⟩
              · next consistent =>
                  simp only [not_or, not_not] at consistent
                  obtain ⟨rfl, rfl, rfl, atEnd⟩ := consistent
                  exact ⟨[], _, .ended peers atEnd blake3 sourceQos messages⟩
          | payload received offset data =>
              rw [receiveLoop]
              split
              · exact ⟨[], _, .left peers receipt _ state _⟩
              · next valid =>
                  simp only [not_or, not_not, Nat.not_lt, Bool.not_eq_true] at valid
                  obtain ⟨rfl, nonempty, short, rfl, inside⟩ := valid
                  have inside := endsBeyond_eq_false inside
                  have accounts := accepted_accounts (F := F) peers
                    { state with forwarded := state.forwarded ++ [data] } data.length
                  split
                  · exact ⟨[], _, .left peers receipt _ state _⟩
                  · split
                    · next next error refused =>
                        rw [refused] at accounts
                        exact ⟨[data], messages, .refused nonempty short inside accounts⟩
                    · next next taken =>
                        rw [taken] at accounts
                        obtain ⟨parts, rest, remaining⟩ :=
                          ih { next with expectedOffset := next.expectedOffset + data.length }
                        exact ⟨data :: parts, rest, .chunk nonempty short inside accounts remaining⟩

/-- With open peers the framing of bounded parts up to the end of the source is accepted. -/
theorem Peers.Open.receiveLoop_framing {peers : Peers} (isOpen : peers.Open) {receipt : PayloadReceipt}
    (sized : receipt.sourceSize < 2 ^ 64) (evidence : ExpertSourceEvidence)
    (sameSize : evidence.sourceSize = receipt.sourceSize)
    (sameIdentity : evidence.identityKey = receipt.identityKey) (parts : List Bytes)
    (bounded : ∀ part ∈ parts, part ≠ [] ∧ part.length ≤ receipt.maximumChunkBytes) (state : Receiving)
    (pending : state.credit.acceptedPending ≤ state.expectedOffset)
    (atEnd : state.expectedOffset + parts.flatten.length = receipt.sourceSize) :
    (receiveLoop (F := F) peers receipt (payloadEvents receipt.ndx state.expectedOffset parts ++
      [completedEvent receipt.ndx evidence]) state).2 = .ok evidence ∧
    (receiveLoop (F := F) peers receipt (payloadEvents receipt.ndx state.expectedOffset parts ++
      [completedEvent receipt.ndx evidence]) state).1.forwarded = state.forwarded ++ parts := by
  induction parts generalizing state with
  | nil =>
      have reached : state.expectedOffset = receipt.sourceSize := by simpa using atEnd
      obtain ⟨sourceSize, blake3, identityKey, sourceQos⟩ := evidence
      obtain rfl : sourceSize = receipt.sourceSize := sameSize
      obtain rfl : identityKey = receipt.identityKey := sameIdentity
      simp only [payloadEvents, completedEvent, List.nil_append]
      rw [receiveLoop, if_neg (by simp [reached]), (leave_exits peers state _).forwarded, isOpen.leave,
        List.append_nil]
      exact ⟨rfl, rfl⟩
  | cons data rest ih =>
      rw [List.flatten_cons, List.length_append] at atEnd
      obtain ⟨nonempty, short⟩ := bounded data (by simp)
      have inside : endsBeyond state.expectedOffset data.length receipt.sourceSize = false :=
        endsBeyond_of_le (by omega) sized
      simp only [payloadEvents, List.cons_append]
      rw [receiveLoop, if_neg (by simp [nonempty, short, inside]), if_neg (by simp [isOpen.writes])]
      have accounts := accepted_accounts (F := F) peers
        { state with forwarded := state.forwarded ++ [data] } data.length
      have granted := isOpen.accepted (F := F) { state with forwarded := state.forwarded ++ [data] }
        (show state.credit.acceptedPending + data.length < 2 ^ 64 by omega)
      cases taken : Receiving.accepted (F := F) peers
        { state with forwarded := state.forwarded ++ [data] } data.length with
      | mk next result =>
          rw [taken] at accounts granted
          obtain ⟨rfl, waiting⟩ := granted
          have advanced : next.expectedOffset = state.expectedOffset := accounts.expectedOffset
          have written : next.forwarded = state.forwarded ++ [data] := accounts.forwarded
          have remaining := ih (fun part member => bounded part (by simp [member]))
            { next with expectedOffset := next.expectedOffset + data.length }
            (by simp only [advanced] at waiting ⊢; omega) (by simp only [advanced]; omega)
          simpa only [advanced, written, List.append_assoc, List.singleton_append] using remaining

/-- The payload framing is exact: what the source side sends after its offer is accepted,
whatever the chunks of the stream, and gives the writer the source from the durable prefix
on; and whatever messages arrive, a successful receipt read the framing of what it
forwarded, up to the end of the source, and granted back just those bytes. -/
theorem expert_payload_framing_exact :
    (∀ (source : Bytes) (receipt : PayloadReceipt) (session : ExpertSourceSession F)
        (payload : SourcePayload F) (evidence : ExpertSourceEvidence) (wire : Wire) (peers : Peers)
        (later : List ReceiverMsg),
      Streams source receipt session payload evidence → wire.Open → peers.Open → wire.sent = [] →
      wire.incoming = .transferRequested receipt.ndx ::
        .payloadRequested receipt.ndx receipt.durablePrefix receipt.maximumChunkBytes :: later →
      ∃ events, ((serveRemoteSourceInner receipt.ndx (.ok session)).run.run wire).2.sent =
          offerEvent receipt.ndx session.offer :: (events ++ [completedEvent receipt.ndx evidence]) ∧
        (receivePayload (F := F) peers receipt
          (events ++ [completedEvent receipt.ndx evidence])).2 = .ok evidence ∧
        (receivePayload (F := F) peers receipt
          (events ++ [completedEvent receipt.ndx evidence])).1.forwarded.flatten =
            source.drop receipt.durablePrefix) ∧
    ∀ (peers : Peers) (receipt : PayloadReceipt) (messages : List SenderMsg) (final : Receiving)
        (evidence : ExpertSourceEvidence),
      receivePayload (F := F) peers receipt messages = (final, .ok evidence) →
      (∃ unread, messages = payloadEvents receipt.ndx receipt.durablePrefix final.forwarded ++
        completedEvent receipt.ndx evidence :: unread) ∧
      receipt.durablePrefix ≤ receipt.sourceSize ∧
      final.forwarded.flatten.length = receipt.sourceSize - receipt.durablePrefix ∧
      (∀ chunk ∈ final.forwarded, chunk ≠ [] ∧ chunk.length ≤ receipt.maximumChunkBytes) ∧
      final.grants.sum = final.forwarded.flatten.length := by
  refine ⟨?_, ?_⟩
  · intro source receipt session payload evidence wire peers later streams wireOpen peersOpen fresh asked
    have sized := streams.sized
    have durable := streams.durable
    have rest : payload.chunks.flatten.length = source.length - receipt.durablePrefix := by
      rw [streams.divided, List.length_drop]
    have cut := flatten_flatMap_splitBytes streams.limited payload.chunks (by omega)
    have sent := streams.served wireOpen asked
    rw [fresh, List.nil_append] at sent
    have received := peersOpen.receiveLoop_framing (F := F)
      (by rw [streams.expected]; exact sized) evidence
      (streams.evidenceSize.trans streams.expected.symm) streams.evidenceIdentity
      (payload.chunks.flatMap (splitBytes · receipt.maximumChunkBytes))
      (fun part member => by
        obtain ⟨chunk, _, piece⟩ := List.mem_flatMap.mp member
        exact mem_splitFrom piece)
      (.start receipt.durablePrefix) (Nat.zero_le _)
      (by rw [cut, rest, streams.expected]; simp only [Receiving.start]; omega)
    refine ⟨_, sent, received.1, ?_⟩
    exact (congrArg List.flatten received.2).trans (cut.trans streams.divided)
  · intro peers receipt messages final evidence received
    obtain ⟨parts, rest, delivers⟩ := receiveLoop_delivers (F := F) peers receipt messages
      (.start receipt.durablePrefix)
    unfold receivePayload at received
    rw [received] at delivers
    obtain rfl : final.forwarded = parts := delivers.forwarded
    obtain ⟨atEnd, _, _, unread, rfl⟩ := delivers.completed evidence rfl
    simp only [Receiving.start] at atEnd
    refine ⟨⟨unread, delivers.framed⟩, by omega, by omega, delivers.bounded, ?_⟩
    rcases delivers.granted with granted | ⟨_, failed⟩
    · simpa [Receiving.start] using granted
    · cases failed

/-- Three bytes after a durable prefix of one, in chunks of two and one, cut to single bytes. -/
theorem expert_payload_framing_exact_three_bytes :
    let receipt : PayloadReceipt := ⟨7, 4, 1, 1, 0⟩
    let evidence : ExpertSourceEvidence := ⟨4, 5, 0, ⟨4, 4, 0, 1, 0, false⟩⟩
    let peers : Peers := ⟨fun _ => none, fun _ => true⟩
    let payload : SourcePayload Unit := ⟨[[2, 3], [4]], .ok evidence⟩
    let session : ExpertSourceSession Unit := ⟨⟨4, 8, 0⟩, fun _ => .ok payload⟩
    let wire : Wire := ⟨[.transferRequested 7, .payloadRequested 7 1 1], [], fun _ => none⟩
    (∃ events, ((serveRemoteSourceInner 7 (.ok session)).run.run wire).2.sent =
        offerEvent 7 session.offer :: (events ++ [completedEvent 7 evidence]) ∧
      (@receivePayload Unit peers receipt (events ++ [completedEvent 7 evidence])).2 =
        .ok evidence ∧
      (@receivePayload Unit peers receipt
        (events ++ [completedEvent 7 evidence])).1.forwarded.flatten = [2, 3, 4]) ∧
    (@receivePayload Unit peers receipt
      (payloadEvents 7 1 [[2], [3], [4]] ++ [completedEvent 7 evidence])).1.grants.sum = 3 := by
  intro receipt evidence peers payload session wire
  refine ⟨expert_payload_framing_exact.1 [1, 2, 3, 4] receipt session payload evidence wire peers []
    ⟨by decide, rfl, by decide, by decide, rfl, rfl, rfl, rfl, rfl, rfl⟩ (fun _ => rfl)
    ⟨fun _ => rfl, fun _ => rfl⟩ rfl rfl, ?_⟩
  exact ((@expert_payload_framing_exact Unit).2 peers receipt _ _ evidence rfl).2.2.2.2

end Terrasync.App.ExpertTransfer
