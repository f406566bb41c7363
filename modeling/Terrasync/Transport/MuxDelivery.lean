import Terrasync.Transport.MuxProperties

/-! Whole runs of a connection: on each stream the messages arrive in the order in which they were
sent, each as its snapshots are read back, and when nothing is under way any more, all of them have. -/

set_option autoImplicit false

namespace Terrasync.Transport.Quic

open SyncDelta (Bytes)

variable {Msg : Type}

/-! ### What is noticed at the two ends -/

def sentOn (kind : StreamKind) : Seen → Option WireSenderMsg
  | .sent msg => if msg.streamKind = kind then some msg else none
  | _ => none

def receivedOn (kind : StreamKind) : Seen → Option WireSenderMsg
  | .received msg => if msg.streamKind = kind then some msg else none
  | _ => none

/-- Grants are no messages to the owner of the sender. -/
def repliedOn (kind : StreamKind) : Seen → Option WireReceiverMsg
  | .replied msg => if msg.streamKind = kind ∧ msg.grant = none then some msg else none
  | _ => none

def heardOn (kind : StreamKind) : Seen → Option WireReceiverMsg
  | .heard msg => if msg.streamKind = kind then some msg else none
  | _ => none

def grantSent : Seen → Option Nat
  | .replied msg => msg.grant
  | _ => none

def grantApplied : Seen → Option Nat
  | .granted bytes => some bytes
  | _ => none

/-- What went into the queues and what came out of them. -/
structure Account (snapshots : Snapshots) (before after : Streams) (seen : List Seen) : Prop where
  up : ∀ kind, before.up kind ++ (seen.filterMap (sentOn kind)).map (WireSenderMsg.image snapshots) =
    seen.filterMap (receivedOn kind) ++ after.up kind
  down : ∀ kind,
    before.down kind ++ seen.filterMap (repliedOn kind) = seen.filterMap (heardOn kind) ++ after.down kind
  grants : before.grants ++ seen.filterMap grantSent = seen.filterMap grantApplied ++ after.grants

theorem account_step {snapshots : Snapshots} {before after : Streams} {event : Seen}
    (stepped : before.step snapshots event = some after) : Account snapshots before after [event] := by
  cases event with
  | sent msg =>
      cases stepped
      refine ⟨fun kind => ?_, fun kind => ?_, ?_⟩
      · by_cases same : kind = msg.streamKind
        · subst same
          simp [sentOn, receivedOn]
        · simp [sentOn, receivedOn, Function.update_of_ne same, Ne.symm same]
      · exact List.append_nil _
      · exact List.append_nil _
  | received msg =>
      simp only [Streams.step] at stepped
      split at stepped
      next => cases stepped
      next first later queue =>
          split at stepped
          next here =>
              cases stepped
              subst here
              refine ⟨fun kind => ?_, fun kind => ?_, ?_⟩
              · by_cases same : kind = first.streamKind
                · subst same
                  simp [sentOn, receivedOn, queue]
                · simp [sentOn, receivedOn, Function.update_of_ne same, Ne.symm same]
              · exact List.append_nil _
              · exact List.append_nil _
          next => cases stepped
  | replied msg =>
      simp only [Streams.step] at stepped
      split at stepped
      next bytes grant =>
          cases stepped
          refine ⟨fun kind => ?_, fun kind => ?_, ?_⟩
          · exact List.append_nil _
          · simp [repliedOn, heardOn, grant]
          · simp [grantSent, grantApplied, grant]
      next ordinary =>
          cases stepped
          refine ⟨fun kind => ?_, fun kind => ?_, ?_⟩
          · exact List.append_nil _
          · by_cases same : kind = msg.streamKind
            · subst same
              simp [repliedOn, heardOn, ordinary]
            · simp [repliedOn, heardOn, Function.update_of_ne same, Ne.symm same]
          · simp [grantSent, grantApplied, ordinary]
  | heard msg =>
      simp only [Streams.step] at stepped
      split at stepped
      next => cases stepped
      next first later queue =>
          split at stepped
          next here =>
              cases stepped
              subst here
              refine ⟨fun kind => ?_, fun kind => ?_, ?_⟩
              · exact List.append_nil _
              · by_cases same : kind = first.streamKind
                · subst same
                  simp [repliedOn, heardOn, queue]
                · simp [repliedOn, heardOn, Function.update_of_ne same, Ne.symm same]
              · exact List.append_nil _
          next => cases stepped
  | granted bytes =>
      simp only [Streams.step] at stepped
      split at stepped
      next => cases stepped
      next first grants queue =>
          split at stepped
          next here =>
              cases stepped
              subst here
              refine ⟨fun kind => ?_, fun kind => ?_, ?_⟩
              · exact List.append_nil _
              · exact List.append_nil _
              · simp [grantSent, grantApplied, queue]
          next => cases stepped

theorem Account.trans {snapshots : Snapshots} {first middle last : Streams} {early late : List Seen}
    (before : Account snapshots first middle early) (after : Account snapshots middle last late) :
    Account snapshots first last (early ++ late) where
  up := fun kind => by
    rw [List.filterMap_append, List.filterMap_append, List.map_append, ← List.append_assoc, before.up,
      List.append_assoc, after.up, List.append_assoc]
  down := fun kind => by
    rw [List.filterMap_append, List.filterMap_append, ← List.append_assoc, before.down, List.append_assoc,
      after.down, List.append_assoc]
  grants := by
    rw [List.filterMap_append, List.filterMap_append, ← List.append_assoc, before.grants, List.append_assoc,
      after.grants, List.append_assoc]

theorem account_exec {snapshots : Snapshots} {before after : Streams} {seen : List Seen}
    (run : (Streams.machine snapshots).exec before seen = some after) : Account snapshots before after seen := by
  induction seen generalizing before with
  | nil =>
      cases run
      exact ⟨fun _ => List.append_nil _, fun _ => List.append_nil _, List.append_nil _⟩
  | cons event rest ih =>
      obtain ⟨middle, stepped, later⟩ := Lib.Machine.exec_cons run
      exact (account_step stepped).trans (ih later)

/-! ### Runs -/

/-- The queues have done what was noticed, and are what is under way. -/
def Refines (codecs : Codecs) (snapshots : Snapshots) (faulty : Prop) (traced : Traced) : Prop :=
  ∃ streams, (Streams.machine snapshots).exec .empty traced.seen = some streams ∧
    Follows codecs snapshots faulty traced.connection streams

theorem refines_step {codecs : Codecs} {snapshots : Snapshots} {faulty : Prop} (lawful : codecs.Lawful snapshots)
    {traced next : Traced} {action : Action} (refines : Refines codecs snapshots faulty traced)
    (sound : Sound codecs faulty action) (stepped : (machine codecs).step traced action = some next) :
    Refines codecs snapshots faulty next := by
  obtain ⟨streams, run, follows⟩ := refines
  obtain ⟨⟨connection, seen⟩, done, rfl⟩ := Option.map_eq_some_iff.mp stepped
  obtain ⟨after, moved, follows⟩ := follows_step lawful follows sound done
  exact ⟨after, Lib.Machine.exec_trans run moved, follows⟩

theorem refines_run {codecs : Codecs} {snapshots : Snapshots} {faulty : Prop} (lawful : codecs.Lawful snapshots)
    {credit : SenderCreditLedger} {actions : List Action} {final : Traced}
    (sound : ∀ action ∈ actions, Sound codecs faulty action)
    (run : (machine codecs).exec (start credit) actions = some final) : Refines codecs snapshots faulty final :=
  Lib.Machine.exec_invariant_along (refines_step lawful) ⟨_, rfl, follows_new credit⟩
    (Lib.Machine.along_of_forall sound _) run

/-- A file of an object store with two versions. -/
def versionedFile : ObservedEntry :=
  { ObservedEntry.new ['f'] .file (some 7) none .s3 none with
    history := some
      [⟨some ['b'], true, false, some 7, none, none⟩, ⟨some ['a'], false, false, some 3, none, none⟩] }

/-- The same file as it is read from the snapshot of its older version. -/
def olderFile : ObservedEntry :=
  { ObservedEntry.new ['f'] .file (some 3) none .s3 none with
    history := some [⟨some ['a'], false, false, some 3, none, none⟩] }

def sampleSnapshots : Snapshots where
  encode _ := .error "unsupported"
  encodeVersion entry index := if entry = versionedFile ∧ index = 1 then .ok [9] else .error "unsupported"
  decode bytes := if bytes = [9] then .ok olderFile else .error "unsupported"

theorem sampleSnapshots_lawful : sampleSnapshots.Lawful where
  whole encoded := by cases encoded
  version := by
    intro entry index bytes encoded
    simp only [sampleSnapshots] at encoded ⊢
    split at encoded
    next known =>
        cases encoded
        obtain ⟨rfl, rfl⟩ := known
        exact ⟨_, olderFile, rfl, rfl, rfl, rfl, rfl⟩
    next => cases encoded

example : ∃ record, ObservedItem.version ⟨versionedFile, some 1⟩ = some record ∧
    (sampleSnapshots.selected ⟨versionedFile, some 1⟩).entry.history = some [record] ∧
    (sampleSnapshots.selected ⟨versionedFile, some 1⟩).version = some record :=
  Snapshots.selected_version sampleSnapshots_lawful rfl rfl

def pageOf (item : ObservedItem) : WireSenderMsg :=
  .transfer (.filePage { dirPath := [], ndxStart := 0, files := [⟨0, item⟩], subdirs := [], gapNdx := -1 })

/-- The page that advertises the older version, and the page that arrives. -/
def versionPage : WireSenderMsg := pageOf ⟨versionedFile, some 1⟩

def arrivedPage : WireSenderMsg := pageOf ⟨olderFile, some 0⟩

theorem image_versionPage : versionPage.image sampleSnapshots = arrivedPage := rfl

def currentFeatures : FeatureFlags := ⟨true, true, true, true, false, false, false⟩

def hello : WireSenderMsg := .handshake ⟨12, 12, currentFeatures, .blake3⟩

def welcome : WireReceiverMsg := .handshakeAck (.accepted currentFeatures false)

/-- `bincode` writes the number of the variant and then its fields; here of four messages only. -/
def sampleCodecs : Codecs where
  sender :=
    { encode := fun msg =>
        if msg = hello then .ok [0, 12, 12, 1, 1, 1, 1, 0, 0, 0, 0]
        else if msg = versionPage then .ok [3, 0, 0, 1, 0, 2, 115, 51, 1, 98, 1, 9, 0, 1]
        else .error "unsupported"
      decode := fun raw =>
        match raw with
        | [0, 12, 12, 1, 1, 1, 1, 0, 0, 0, 0] => .ok hello
        | [3, 0, 0, 1, 0, 2, 115, 51, 1, 98, 1, 9, 0, 1] => .ok arrivedPage
        | _ => .error "unsupported"
      encodeAll := .ok
      decodeAll := .ok }
  receiver :=
    { encode := fun msg =>
        if msg = welcome then .ok [0, 0, 1, 1, 1, 1, 0, 0, 0, 0]
        else if msg = .transfer (.creditGrant 5) then .ok [16, 5, 0]
        else .error "unsupported"
      decode := fun raw =>
        match raw with
        | [0, 0, 1, 1, 1, 1, 0, 0, 0, 0] => .ok welcome
        | [16, 5, 0] => .ok (.transfer (.creditGrant 5))
        | _ => .error "unsupported"
      encodeAll := .ok
      decodeAll := .ok }

theorem sampleCodecs_lawful : sampleCodecs.Lawful sampleSnapshots where
  sender := by
    refine ⟨fun {msg raw} encoded => ?_, fun {raw packed} compressed => ?_⟩
    · simp only [sampleCodecs] at encoded ⊢
      split at encoded
      next same =>
          cases encoded
          rw [same]
          rfl
      next =>
          split at encoded
          next same =>
              cases encoded
              rw [same, image_versionPage]
              rfl
          next => cases encoded
    · cases compressed
      rfl
  receiver := by
    refine ⟨fun {msg raw} encoded => ?_, fun {raw packed} compressed => ?_⟩
    · simp only [sampleCodecs] at encoded ⊢
      split at encoded
      next same =>
          cases encoded
          rw [same, id]
          rfl
      next =>
          split at encoded
          next same =>
              cases encoded
              rw [same, id]
              rfl
          next => cases encoded
    · cases compressed
      rfl

/-- The handshake and a page for the receiver, an answer and a grant; the page comes before the stream
of the handshake is accepted. -/
def shortSession : List Action :=
  [.send hello, .send versionPage, .arrive .receiver .fileList 3, .arrive .receiver .fileList 16, .accept,
    .arrive .receiver .control 16, .accept, .read .receiver .fileList 2, .read .receiver .fileList 9,
    .read .receiver .fileList 1, .read .receiver .control 4, .read .receiver .fileList 14,
    .read .receiver .control 1, .read .receiver .control 11, .receive, .reply welcome,
    .reply (.transfer (.creditGrant 5)), .receive, .arrive .sender .ackProgress 8, .arrive .sender .control 15,
    .acceptAck, .read .sender .ackProgress 4, .read .sender .ackProgress 1, .read .sender .control 4,
    .read .sender .control 1, .read .sender .ackProgress 3, .read .sender .control 10, .filter, .filter, .hear]

theorem fits_short {codec : Codec Msg} {msg : Msg} {raw : Bytes} (encoded : codec.encode msg = .ok raw)
    (short : raw.length < compressionThreshold) : Fits codec msg := by
  have small : compressionThreshold ≤ maxMessageSize := by decide
  refine ⟨raw, raw, 0, encoded, if_neg (Nat.not_le.mpr short), ?_, fun _ => ?_⟩ <;> omega

theorem shortSession_clean : ∀ action ∈ shortSession, Clean sampleCodecs action := by
  simp only [shortSession, List.forall_mem_cons, Clean, true_and]
  refine ⟨fits_short rfl ?_, fits_short rfl ?_, fits_short rfl ?_, fits_short rfl ?_, fun _ member => ?_⟩
  · decide
  · decide
  · decide
  · decide
  · cases member

theorem shortSession_uncut : ∀ action ∈ shortSession, Uncut sampleCodecs action := by
  simp only [shortSession, List.forall_mem_cons, Uncut, true_and]
  have clean := shortSession_clean
  simp only [shortSession, List.forall_mem_cons, Clean, true_and] at clean
  obtain ⟨hello, page, welcome, grant, -⟩ := clean
  exact ⟨hello.framed, page.framed, welcome.framed, grant.framed, fun _ member => by cases member⟩

/-- Whatever the network does to the bytes, whichever streams are lost, and however the tasks take
turns: the two ends notice a run of the queues, so on each stream the messages arrive in the order in
which they were sent, none twice, none made up and none left out before a later one, each as its
snapshots are read back. -/
theorem connection_refines_streams {codecs : Codecs} {snapshots : Snapshots} (lawful : codecs.Lawful snapshots)
    {credit : SenderCreditLedger} {actions : List Action} {final : Traced}
    (uncut : ∀ action ∈ actions, Uncut codecs action)
    (run : (machine codecs).exec (start credit) actions = some final) :
    ∃ streams, (Streams.machine snapshots).exec .empty final.seen = some streams ∧
      Account snapshots .empty streams final.seen := by
  obtain ⟨streams, seen, -⟩ := refines_run lawful (fun action member => sound_of_uncut (uncut action member)) run
  exact ⟨streams, seen, account_exec seen⟩

/-- The page arrives with the version it selects and no other. -/
theorem shortSession_refines : ∃ final,
    (machine sampleCodecs).exec (start ⟨8, 8, false⟩) shortSession = some final ∧
      Seen.sent versionPage ∈ final.seen ∧ Seen.received arrivedPage ∈ final.seen ∧
        ∃ streams, (Streams.machine sampleSnapshots).exec .empty final.seen = some streams ∧
          Account sampleSnapshots .empty streams final.seen := by
  obtain ⟨final, run, sent, received⟩ : ∃ final,
      (machine sampleCodecs).exec (start ⟨8, 8, false⟩) shortSession = some final ∧
        Seen.sent versionPage ∈ final.seen ∧ Seen.received arrivedPage ∈ final.seen :=
    ⟨_, rfl, by decide, by decide⟩
  exact ⟨final, run, sent, received,
    connection_refines_streams sampleCodecs_lawful shortSession_uncut run⟩

/-- Nothing is under way, and no task has anything to do. -/
structure Quiet (connection : Connection) : Prop where
  wireUp : ∀ kind, (connection.toReceiver kind).wire = []
  wireDown : ∀ kind, (connection.toSender kind).wire = []
  readUp : ∀ kind, reading connection.accepted connection.ackAccepted .receiver kind = true →
    (connection.toReceiver kind).arrived = [] ∧ (connection.toReceiver kind).reader.need ≠ 0
  readDown : ∀ kind, reading connection.accepted connection.ackAccepted .sender kind = true →
    (connection.toSender kind).arrived = [] ∧ (connection.toSender kind).reader.need ≠ 0
  hidden : connection.revealed = false
  hiddenAck : connection.ackAccepted = false → (connection.toSender .ackProgress).arrived = []
  received : connection.receiverIncoming = []
  filtered : connection.rawIncoming = []
  heard : connection.senderIncoming = []

theorem waiting_of_untouched {codec : Codec Msg} {pipe : Pipe} {pending : List Msg}
    (line : Line codec False pipe pending) (untouched : pipe.reader = .length [] ∨ pipe.reader.Stopped) :
    pipe.reader.need ≠ 0 := by
  rcases untouched with fresh | stopped
  · rw [fresh]
    exact Nat.succ_ne_zero _
  · rcases line.carries with ⟨-, never⟩ | ⟨running, -⟩
    · exact never.elim
    · exact absurd stopped running

theorem Quiet.up_empty {codecs : Codecs} {snapshots : Snapshots} {connection : Connection} {streams : Streams}
    (quiet : Quiet connection) (follows : Follows codecs snapshots False connection streams) (kind : StreamKind) :
    streams.up kind = [] := by
  obtain ⟨⟨pending, line, kinds, queue⟩, untouched⟩ := follows.up kind
  suffices none_ : pending = [] by
    rw [queue, quiet.received, none_]
    rfl
  by_cases running : reading connection.accepted connection.ackAccepted .receiver kind = true
  · obtain ⟨arrived, waiting⟩ := quiet.readUp kind running
    exact line.drained (quiet.wireUp kind) arrived waiting
  · have idle : reading connection.accepted connection.ackAccepted .receiver kind = false := by
      simpa using running
    have waiting := waiting_of_untouched line (untouched idle)
    by_cases opened : kind ∈ clientInitiated
    · have arrived : (connection.toReceiver kind).arrived = [] := by
        have hidden := List.any_eq_false.mp quiet.hidden kind opened
        have later : connection.accepted ≤ index kind := Nat.not_lt.mp (of_decide_eq_false idle)
        simpa [later] using hidden
      exact line.drained (quiet.wireUp kind) arrived waiting
    · -- the sender writes nothing on the stream of the acknowledgements
      have ack : kind = .ackProgress := by
        cases kind <;> simp_all [clientInitiated]
      cases pending with
      | nil => rfl
      | cons msg later =>
          have here := kinds msg (List.mem_cons_self ..)
          rw [ack] at here
          exact absurd here (WireSenderMsg.streamKind_ne_ackProgress msg)

theorem Quiet.down_empty {codecs : Codecs} {snapshots : Snapshots} {connection : Connection} {streams : Streams}
    (quiet : Quiet connection) (follows : Follows codecs snapshots False connection streams) (kind : StreamKind) :
    streams.down kind = [] ∧ (kind = .ackProgress → streams.grants = []) := by
  obtain ⟨⟨pending, line, kinds, queue, granted⟩, untouched⟩ := follows.down kind
  have none_ : pending = [] := by
    by_cases running : reading connection.accepted connection.ackAccepted .sender kind = true
    · obtain ⟨arrived, waiting⟩ := quiet.readDown kind running
      exact line.drained (quiet.wireDown kind) arrived waiting
    · have idle : reading connection.accepted connection.ackAccepted .sender kind = false := by
        simpa using running
      have ack : kind = .ackProgress ∧ connection.ackAccepted = false := by
        simpa [reading] using idle
      have arrived := quiet.hiddenAck ack.2
      rw [← ack.1] at arrived
      exact line.drained (quiet.wireDown kind) arrived (waiting_of_untouched line (untouched idle))
  subst none_
  rw [queue, quiet.filtered, quiet.heard]
  refine ⟨rfl, fun ack => ?_⟩
  rw [granted ack, quiet.filtered]
  rfl

/-- When a connection that lost no stream and carried no message that is too large comes to rest,
each end has got all that the other sent on each stream, and every grant is applied. -/
theorem quiet_delivered {codecs : Codecs} {snapshots : Snapshots} (lawful : codecs.Lawful snapshots)
    {credit : SenderCreditLedger} {actions : List Action} {final : Traced}
    (clean : ∀ action ∈ actions, Clean codecs action)
    (run : (machine codecs).exec (start credit) actions = some final) (quiet : Quiet final.connection) :
    (∀ kind, (final.seen.filterMap (sentOn kind)).map (WireSenderMsg.image snapshots) =
        final.seen.filterMap (receivedOn kind) ∧
      final.seen.filterMap (repliedOn kind) = final.seen.filterMap (heardOn kind)) ∧
      final.seen.filterMap grantSent = final.seen.filterMap grantApplied := by
  obtain ⟨streams, seen, follows⟩ := refines_run lawful (fun action member => sound_of_clean (clean action member)) run
  obtain ⟨up, down, grants⟩ := account_exec seen
  refine ⟨fun kind => ⟨?_, ?_⟩, ?_⟩
  · simpa [Streams.empty, quiet.up_empty follows kind] using up kind
  · simpa [Streams.empty, (quiet.down_empty follows kind).1] using down kind
  · simpa [Streams.empty, (quiet.down_empty follows .ackProgress).2 rfl] using grants

theorem shortSession_delivered : ∃ final,
    (machine sampleCodecs).exec (start ⟨8, 8, false⟩) shortSession = some final ∧
      (∀ kind, (final.seen.filterMap (sentOn kind)).map (WireSenderMsg.image sampleSnapshots) =
          final.seen.filterMap (receivedOn kind) ∧
        final.seen.filterMap (repliedOn kind) = final.seen.filterMap (heardOn kind)) ∧
      final.seen.filterMap grantSent = [5] ∧ final.seen.filterMap grantApplied = [5] := by
  obtain ⟨final, run, quiet, sent⟩ : ∃ final,
      (machine sampleCodecs).exec (start ⟨8, 8, false⟩) shortSession = some final ∧ Quiet final.connection ∧
        final.seen.filterMap grantSent = [5] := by
    refine ⟨_, rfl, ?_, rfl⟩
    constructor
    · intro kind
      cases kind <;> rfl
    · intro kind
      cases kind <;> rfl
    · intro kind
      cases kind <;> decide
    · intro kind
      cases kind <;> decide
    · rfl
    · exact fun never => by cases never
    · rfl
    · rfl
    · rfl
  obtain ⟨delivered, granted⟩ := quiet_delivered sampleCodecs_lawful shortSession_clean run quiet
  exact ⟨final, run, delivered, sent, granted.symm.trans sent⟩

/-! ### Streams that are accepted late -/

/-- What the receiver has read came on a stream it had accepted. -/
structure Accepted (traced : Traced) : Prop where
  incoming : ∀ msg ∈ traced.connection.receiverIncoming,
    index msg.streamKind < traced.connection.accepted
  seen : ∀ msg, .received msg ∈ traced.seen → index msg.streamKind < traced.connection.accepted

theorem accepted_step {codecs : Codecs} {snapshots : Snapshots} {connection next : Connection} {streams : Streams}
    {faulty : Prop} {action : Action} {seen : Option Seen} (lawful : codecs.Lawful snapshots)
    (follows : Follows codecs snapshots faulty connection streams)
    (stepped : connection.step codecs action = some (next, seen)) :
    connection.accepted ≤ next.accepted ∧
      (∀ msg ∈ next.receiverIncoming, msg ∈ connection.receiverIncoming ∨
        index msg.streamKind < connection.accepted) ∧
      ∀ msg, seen = some (.received msg) → msg ∈ connection.receiverIncoming := by
  have same (still : next.accepted = connection.accepted)
      (unread : next.receiverIncoming = connection.receiverIncoming)
      (other : ∀ msg, seen ≠ some (.received msg)) :
      connection.accepted ≤ next.accepted ∧
        (∀ msg ∈ next.receiverIncoming, msg ∈ connection.receiverIncoming ∨
          index msg.streamKind < connection.accepted) ∧
        ∀ msg, seen = some (.received msg) → msg ∈ connection.receiverIncoming :=
    ⟨Nat.le_of_eq still.symm, fun msg member => Or.inl (unread ▸ member), fun msg now => absurd now (other msg)⟩
  cases action with
  | send msg =>
      obtain ⟨sent, done, result⟩ := Option.map_eq_some_iff.mp stepped
      cases result
      obtain ⟨frame, credit, -, rfl⟩ := send_cases done
      exact same rfl rfl fun _ now => by cases now
  | reply msg =>
      obtain ⟨replied, done, result⟩ := Option.map_eq_some_iff.mp stepped
      cases result
      simp only [Connection.reply] at done
      split at done
      next =>
          split at done
          next =>
              cases done
              exact same rfl rfl fun _ now => by cases now
          next => cases done
      next => cases done
  | arrive side kind size =>
      cases side <;> cases stepped <;> exact same rfl rfl fun _ now => by cases now
  | lose side kind finished =>
      cases side <;> cases stepped <;> exact same rfl rfl fun _ now => by cases now
  | read side kind size =>
      obtain ⟨reached, done, result⟩ := Option.map_eq_some_iff.mp stepped
      cases result
      simp only [Connection.read] at done
      split at done
      next running =>
          cases side with
          | sender =>
              cases done
              exact same rfl rfl fun _ now => by cases now
          | receiver =>
              cases done
              have here := follows.up kind
              rw [running] at here
              obtain ⟨-, kinds⟩ := here.read lawful size
              refine ⟨Nat.le_refl _, fun msg member => ?_, fun _ now => by cases now⟩
              rcases List.mem_append.mp member with old | fresh
              · exact Or.inl old
              · rw [kinds msg (Option.mem_toList.mp fresh)]
                exact Or.inr (of_decide_eq_true running)
      next => cases done
  | accept =>
      simp only [Connection.step] at stepped
      split at stepped
      next =>
          cases stepped
          exact ⟨Nat.le_succ _, fun msg member => Or.inl member, fun _ now => by cases now⟩
      next => cases stepped
  | acceptAck =>
      simp only [Connection.step] at stepped
      split at stepped
      next =>
          cases stepped
          exact same rfl rfl fun _ now => by cases now
      next => cases stepped
  | filter =>
      have filtered : connection.filter = some (next, seen) := stepped
      unfold Connection.filter at filtered
      split at filtered
      next => cases filtered
      next =>
          cases filtered
          exact same rfl rfl fun _ now => by cases now
      next =>
          cases filtered
          exact same rfl rfl fun _ now => by cases now
  | receive =>
      simp only [Connection.step] at stepped
      split at stepped
      next => cases stepped
      next msg incoming first =>
          cases stepped
          refine ⟨Nat.le_refl _, fun other member => Or.inl ?_, fun other now => ?_⟩
          · rw [first]
            exact List.mem_cons_of_mem _ member
          · cases now
            rw [first]
            exact List.mem_cons_self ..
  | hear =>
      simp only [Connection.step] at stepped
      split at stepped
      next => cases stepped
      next msg incoming first =>
          cases stepped
          exact same rfl rfl fun _ now => by cases now

/-- The receiver never waits to answer on a stream it has received a message from. -/
theorem received_ready {codecs : Codecs} {snapshots : Snapshots} (lawful : codecs.Lawful snapshots)
    {credit : SenderCreditLedger} {actions : List Action} {final : Traced} {msg : WireSenderMsg}
    (uncut : ∀ action ∈ actions, Uncut codecs action)
    (run : (machine codecs).exec (start credit) actions = some final) (received : .received msg ∈ final.seen) :
    final.connection.ready msg.streamKind = true := by
  have kept : Refines codecs snapshots True final ∧ Accepted final := by
    apply Lib.Machine.exec_invariant_along _ _ (Lib.Machine.along_of_forall uncut _) run
    · rintro ⟨connection, before⟩ action after ⟨refines, incoming, seen⟩ meets stepped
      refine ⟨refines_step lawful refines (sound_of_uncut meets) stepped, ?_⟩
      obtain ⟨streams, -, follows⟩ := refines
      obtain ⟨⟨next, event⟩, done, rfl⟩ := Option.map_eq_some_iff.mp stepped
      obtain ⟨grown, read, popped⟩ := accepted_step lawful follows done
      constructor
      · intro other member
        rcases read other member with old | fresh
        · exact Nat.lt_of_lt_of_le (incoming other old) grown
        · exact Nat.lt_of_lt_of_le fresh grown
      · intro other member
        rcases List.mem_append.mp member with old | fresh
        · exact Nat.lt_of_lt_of_le (seen other old) grown
        · exact Nat.lt_of_lt_of_le (incoming other (popped other (Option.mem_toList.mp fresh))) grown
    · refine ⟨⟨_, rfl, follows_new credit⟩, ⟨fun _ member => ?_, fun _ member => ?_⟩⟩ <;> cases member
  have inside := kept.2.seen msg received
  simp only [Connection.ready, Bool.and_eq_true, Bool.or_eq_true, decide_eq_true_eq]
  exact ⟨by omega, Or.inr inside⟩

theorem shortSession_ready : ∃ final,
    (machine sampleCodecs).exec (start ⟨8, 8, false⟩) shortSession = some final ∧
      final.connection.ready .fileList = true ∧ final.connection.ready .data = false := by
  obtain ⟨final, run, received, late⟩ : ∃ final,
      (machine sampleCodecs).exec (start ⟨8, 8, false⟩) shortSession = some final ∧
        .received arrivedPage ∈ final.seen ∧ final.connection.ready .data = false :=
    ⟨_, rfl, by decide, rfl⟩
  exact ⟨final, run, received_ready sampleCodecs_lawful shortSession_uncut run received, late⟩

end Terrasync.Transport.Quic
