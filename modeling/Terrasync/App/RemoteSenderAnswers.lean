import Terrasync.App.ReceiverProperties
import Terrasync.App.RemoteSession

/-! What the answers of a sender contain: each of them settles its own index once, and
touches no other. -/

set_option autoImplicit false

namespace Terrasync.App

open Transport

/-! ### Tokens -/

def closes (ndx : Ndx) (outgoing : Outgoing) : Bool := closingNdx outgoing.message = some ndx

def carries (ndx : Ndx) (outgoing : Outgoing) : Bool := payloadNdx outgoing.message = some ndx

/-- A message that settles an index without a payload. -/
def settlesDirectly (ndx : Ndx) (outgoing : Outgoing) : Bool :=
  decide (markerNdx outgoing.message = some ndx) || decide (linkNdx outgoing = some ndx)

/-- Whether a message asks for an index, for the first time or again. -/
def asks (ndx : Ndx) (message : ReceiverMsg) : Bool :=
  decide (requestNdx message = some ndx) || decide (redoNdx message = some ndx)

/-! ### Answers -/

/-- A message that neither carries nor settles a transfer. -/
structure Neutral (message : SenderMsg) : Prop where
  payload : payloadNdx message = none
  closing : closingNdx message = none
  marker : markerNdx message = none
  link : isLink message = false
  page : pageOf message = none
  indexed : ∀ path reason, message ≠ .entryError path reason none

/-- The messages that answer a request. -/
inductive Answers (ndx : Ndx) : List SenderMsg → Prop where
  | filed {payload rest : List SenderMsg} {closing : SenderMsg}
      (carried : ∀ message ∈ payload, payloadNdx message = some ndx) (closes : closingNdx closing = some ndx)
      (neutral : ∀ message ∈ rest, Neutral message) : Answers ndx (payload ++ closing :: rest)
  | direct {message : SenderMsg} {rest : List SenderMsg}
      (settles : markerNdx message = some ndx ∨ isLink message = true)
      (neutral : ∀ message ∈ rest, Neutral message) : Answers ndx (message :: rest)

theorem neutral_nil : ∀ message ∈ ([] : List SenderMsg), Neutral message :=
  fun _ member => absurd member List.not_mem_nil

theorem payload_nil (ndx : Ndx) : ∀ message ∈ ([] : List SenderMsg), payloadNdx message = some ndx :=
  fun _ member => absurd member List.not_mem_nil

namespace RemoteSenderSession

theorem aclMessages_neutral (enableAcl : Bool) (answers : SourceAnswers) (entry : ObservedEntry) :
    ∀ message ∈ aclMessages enableAcl answers entry, Neutral message := by
  intro message member
  simp only [aclMessages] at member
  split at member
  · obtain ⟨aclData, -, rfl⟩ := List.mem_map.mp member
    exact ⟨rfl, rfl, rfl, rfl, rfl, nofun⟩
  · cases member

theorem fileData_payload (ndx : Ndx) (offset : Nat) (chunks : List SyncDelta.Bytes) :
    ∀ message ∈ fileData ndx offset chunks, payloadNdx message = some ndx := by
  induction chunks generalizing offset with
  | nil => exact payload_nil ndx
  | cons data rest ih =>
      intro message member
      cases member with
      | head => rfl
      | tail _ later => exact ih _ message later

theorem reportSourceFailure_answers (entry : ObservedItem) (ndx : Ndx) (reason : String)
    {payload : List SenderMsg} (carried : ∀ message ∈ payload, payloadNdx message = some ndx) :
    Answers ndx (payload ++ reportSourceFailure entry ndx reason) :=
  .filed carried rfl neutral_nil

theorem sendFile_answers (answers : SourceAnswers) (entry : ObservedItem) (ndx : Ndx)
    {rest : List SenderMsg} (neutral : ∀ message ∈ rest, Neutral message) :
    Answers ndx (sendFile answers entry ndx).1 ∧
      ((sendFile answers entry ndx).2 = .sent → Answers ndx ((sendFile answers entry ndx).1 ++ rest)) := by
  have carried : ∀ message ∈ SenderMsg.fileBegin ndx :: fileData ndx 0 answers.chunks,
      payloadNdx message = some ndx := by
    intro message member
    cases member with
    | head => rfl
    | tail _ later => exact fileData_payload ndx 0 answers.chunks message later
  simp only [sendFile]
  split
  · next reason _ => exact ⟨reportSourceFailure_answers entry ndx reason (payload_nil ndx), nofun⟩
  · split
    · next sourceHash _ =>
        refine ⟨.filed carried rfl neutral_nil, fun _ => ?_⟩
        rw [List.append_assoc, List.singleton_append]
        exact .filed carried rfl neutral
    · next reason _ => exact ⟨reportSourceFailure_answers entry ndx reason carried, nofun⟩

theorem sendEntry_answers (answers : SourceAnswers) {entry : ObservedItem} (ndx : Ndx)
    (payload : isPlainDirectory entry = false) {rest : List SenderMsg}
    (neutral : ∀ message ∈ rest, Neutral message) :
    Answers ndx (sendEntry answers entry ndx).1 ∧
      ((sendEntry answers entry ndx).2 = .sent → Answers ndx ((sendEntry answers entry ndx).1 ++ rest)) := by
  simp only [sendEntry, payload, Bool.false_eq_true, if_false]
  split
  · exact ⟨.direct (.inl rfl) neutral_nil, fun _ => .direct (.inl rfl) neutral⟩
  · split
    · split
      · exact ⟨.direct (.inr rfl) neutral_nil, fun _ => .direct (.inr rfl) neutral⟩
      · next reason _ => exact ⟨reportSourceFailure_answers entry ndx reason (payload_nil ndx), nofun⟩
    · exact sendFile_answers answers entry ndx neutral

theorem sendFullTransfer_answers (enableAcl : Bool) (answers : SourceAnswers) {entry : ObservedItem}
    (ndx : Ndx) (payload : isPlainDirectory entry = false) :
    Answers ndx (sendFullTransfer enableAcl answers entry ndx).1 := by
  have sent := sendEntry_answers answers ndx payload (aclMessages_neutral enableAcl answers entry.entry)
  simp only [sendFullTransfer]
  split
  · next acl => exact sent.2 acl.1
  · exact sent.1

/-- A directory without a payload is created without a terminal. -/
theorem sendFullTransfer_directory (enableAcl : Bool) (answers : SourceAnswers) {entry : ObservedItem}
    (ndx : Ndx) (plain : isPlainDirectory entry = true) :
    ∀ message ∈ (sendFullTransfer enableAcl answers entry ndx).1, Neutral message := by
  have history : entry.entry.history = none := by
    simp only [isPlainDirectory, Bool.and_eq_true, Option.isNone_iff_eq_none] at plain
    exact plain.1.1
  have unversioned : isDeleteMarker entry = false := by
    simp only [isDeleteMarker, ObservedItem.version, ObservedView.version, ObservedItem.view, history,
      Option.bind_none]
    cases entry.versionIndex <;> rfl
  have created : (sendEntry answers entry ndx) = ([.createDir entry.entry], .sent) := by
    simp only [sendEntry, unversioned, Bool.false_eq_true, if_false, plain, if_true]
  intro message member
  simp only [sendFullTransfer, created, history, Option.isNone_none, and_self, if_true,
    List.singleton_append, List.mem_cons] at member
  cases member with
  | inl first =>
      subst first
      exact ⟨rfl, rfl, rfl, rfl, rfl, nofun⟩
  | inr acl => exact aclMessages_neutral enableAcl answers entry.entry message acl

theorem deltaTokens_payload (ndx : Ndx) (tokens : List SyncDelta.DeltaToken) :
    ∀ message ∈ tokens.map (deltaToken ndx), payloadNdx message = some ndx := by
  intro message member
  obtain ⟨token, -, rfl⟩ := List.mem_map.mp member
  cases token <;> rfl

theorem sendDeltaTransfer_answers (blake3Truncated : SyncDelta.Bytes → SyncDelta.StrongHash)
    (enableAcl : Bool) (answers : SourceAnswers) (entry : ObservedItem) (ndx : Ndx) (blockSize : UInt32)
    (signatures : List SyncDelta.BlockSignature) :
    Answers ndx (sendDeltaTransfer blake3Truncated enableAcl answers entry ndx blockSize signatures).1 := by
  simp only [sendDeltaTransfer]
  split
  · next reason _ => exact reportSourceFailure_answers entry ndx reason (payload_nil ndx)
  · split
    · exact reportSourceFailure_answers entry ndx _ (deltaTokens_payload ndx _)
    · exact .filed (deltaTokens_payload ndx _) rfl (aclMessages_neutral enableAcl answers entry.entry)

end RemoteSenderSession

theorem payload_only {message : SenderMsg} {ndx : Ndx} (payload : payloadNdx message = some ndx) :
    closingNdx message = none ∧ markerNdx message = none ∧ isLink message = false ∧
      pageOf message = none := by
  cases message <;> first | exact ⟨rfl, rfl, rfl, rfl⟩ | cases payload

theorem closing_only {message : SenderMsg} {ndx : Ndx} (closing : closingNdx message = some ndx) :
    payloadNdx message = none ∧ markerNdx message = none ∧ isLink message = false ∧
      pageOf message = none := by
  cases message <;> first | exact ⟨rfl, rfl, rfl, rfl⟩ | cases closing

theorem direct_only {message : SenderMsg} (direct : markerNdx message ≠ none ∨ isLink message = true) :
    payloadNdx message = none ∧ closingNdx message = none ∧ pageOf message = none := by
  cases message <;> first | exact ⟨rfl, rfl, rfl⟩ | simp [markerNdx, isLink] at direct

@[simp] theorem linkNdx_mk (tag : Option Ndx) (message : SenderMsg) :
    linkNdx ⟨tag, message⟩ = if isLink message then tag else none := by
  cases message <;> rfl

theorem linkNdx_none {outgoing : Outgoing} (link : isLink outgoing.message = false) :
    linkNdx outgoing = none := by
  obtain ⟨tag, message⟩ := outgoing
  rw [linkNdx_mk, link]
  rfl

/-- The messages of the answer to one request, as they are sent. -/
def tagged (ndx : Ndx) (messages : List SenderMsg) : List Outgoing :=
  messages.map fun message => ⟨some ndx, message⟩

/-- How often a list of messages carries, closes and directly settles an index. -/
structure Contents (ndx : Ndx) (messages : List Outgoing) (carried closed settled : Nat) : Prop where
  carried : messages.countP (carries ndx) = carried
  closed : messages.countP (closes ndx) = closed
  settled : messages.countP (settlesDirectly ndx) = settled

theorem Contents.append {ndx : Ndx} {first second : List Outgoing} {carried closed settled : Nat}
    {carried' closed' settled' : Nat} (head : Contents ndx first carried closed settled)
    (tail : Contents ndx second carried' closed' settled') :
    Contents ndx (first ++ second) (carried + carried') (closed + closed') (settled + settled') where
  carried := by rw [List.countP_append, head.carried, tail.carried]
  closed := by rw [List.countP_append, head.closed, tail.closed]
  settled := by rw [List.countP_append, head.settled, tail.settled]

/-- Messages that have nothing to do with an index. -/
theorem Contents.foreign {ndx : Ndx} {messages : List Outgoing}
    (payload : ∀ outgoing ∈ messages, payloadNdx outgoing.message ≠ some ndx)
    (closing : ∀ outgoing ∈ messages, closingNdx outgoing.message ≠ some ndx)
    (marker : ∀ outgoing ∈ messages, markerNdx outgoing.message ≠ some ndx)
    (link : ∀ outgoing ∈ messages, linkNdx outgoing ≠ some ndx) : Contents ndx messages 0 0 0 where
  carried := List.countP_eq_zero.mpr fun outgoing member => by simp [carries, payload outgoing member]
  closed := List.countP_eq_zero.mpr fun outgoing member => by simp [closes, closing outgoing member]
  settled := List.countP_eq_zero.mpr fun outgoing member => by
    simp [settlesDirectly, marker outgoing member, link outgoing member]

theorem contents_neutral (ndx tag : Ndx) {messages : List SenderMsg}
    (neutral : ∀ message ∈ messages, Neutral message) : Contents ndx (tagged tag messages) 0 0 0 := by
  refine .foreign ?_ ?_ ?_ ?_ <;> intro outgoing member <;>
    obtain ⟨message, source, rfl⟩ := List.mem_map.mp member <;> have quiet := neutral message source
  · simp [quiet.payload]
  · simp [quiet.closing]
  · simp [quiet.marker]
  · simp [quiet.link]

theorem contents_payload (ndx tag : Ndx) {messages : List SenderMsg}
    (carried : ∀ message ∈ messages, payloadNdx message = some tag) :
    Contents ndx (tagged tag messages) (if tag = ndx then messages.length else 0) 0 0 := by
  have silent : ∀ outgoing ∈ tagged tag messages, payloadNdx outgoing.message = some tag ∧
      closingNdx outgoing.message = none ∧ markerNdx outgoing.message = none ∧ linkNdx outgoing = none := by
    intro outgoing member
    obtain ⟨message, source, rfl⟩ := List.mem_map.mp member
    obtain ⟨closing, marker, link, -⟩ := payload_only (carried message source)
    exact ⟨carried message source, closing, marker, by simp [link]⟩
  by_cases own : tag = ndx
  · subst own
    rw [if_pos rfl]
    refine ⟨?_, ?_, ?_⟩
    · rw [← List.length_map (f := fun message => (⟨some tag, message⟩ : Outgoing))]
      exact List.countP_eq_length.mpr fun outgoing member => by simp [carries, (silent outgoing member).1]
    · exact List.countP_eq_zero.mpr fun outgoing member => by simp [closes, (silent outgoing member).2.1]
    · exact List.countP_eq_zero.mpr fun outgoing member => by
        simp [settlesDirectly, (silent outgoing member).2.2.1, (silent outgoing member).2.2.2]
  · rw [if_neg own]
    refine .foreign ?_ ?_ ?_ ?_ <;> intro outgoing member <;>
      obtain ⟨payload, closing, marker, link⟩ := silent outgoing member
    · rw [payload]
      exact fun same => own (Option.some.inj same)
    · rw [closing]
      exact nofun
    · rw [marker]
      exact nofun
    · rw [link]
      exact nofun

/-- One message of an answer. -/
theorem contents_singleton (ndx : Ndx) (outgoing : Outgoing) :
    Contents ndx [outgoing] (carries ndx outgoing).toNat (closes ndx outgoing).toNat
      (settlesDirectly ndx outgoing).toNat := by
  refine ⟨?_, ?_, ?_⟩ <;> rw [List.countP_singleton]
  · cases carries ndx outgoing <;> rfl
  · cases closes ndx outgoing <;> rfl
  · cases settlesDirectly ndx outgoing <;> rfl

/-- An answer settles its own index once, at the end of a payload or directly. -/
theorem Answers.contents {tag : Ndx} {messages : List SenderMsg} (answered : Answers tag messages)
    (ndx : Ndx) :
    (tag ≠ ndx → Contents ndx (tagged tag messages) 0 0 0) ∧
      (tag = ndx → (∃ payloads, Contents ndx (tagged tag messages) payloads 1 0) ∨
        Contents ndx (tagged tag messages) 0 0 1) := by
  cases answered with
  | @filed payload rest closing carried closes neutral =>
      obtain ⟨payloadless, marker, link, -⟩ := closing_only closes
      have split : tagged tag (payload ++ closing :: rest) =
          tagged tag payload ++ ([⟨some tag, closing⟩] ++ tagged tag rest) := by
        simp [tagged]
      have all := (contents_payload ndx tag carried).append
        ((contents_singleton ndx ⟨some tag, closing⟩).append (contents_neutral ndx tag neutral))
      rw [split]
      constructor
      · intro other
        simpa [other, carries, Terrasync.App.closes, settlesDirectly, payloadless, closes, marker, link] using all
      · intro own
        subst own
        exact .inl ⟨payload.length, by
          simpa [carries, Terrasync.App.closes, settlesDirectly, payloadless, closes, marker, link] using all⟩
  | @direct message rest settles neutral =>
      have direct : markerNdx message ≠ none ∨ isLink message = true :=
        settles.imp_left fun marker => by rw [marker]; exact nofun
      obtain ⟨payloadless, unclosed, -⟩ := direct_only direct
      have split : tagged tag (message :: rest) = [⟨some tag, message⟩] ++ tagged tag rest := rfl
      have all := (contents_singleton ndx ⟨some tag, message⟩).append (contents_neutral ndx tag neutral)
      rw [split]
      constructor
      · intro other
        rcases settles with marker | link
        · have unlinked : isLink message = false := by
            cases message <;> first | rfl | cases marker
          simpa [other, carries, closes, settlesDirectly, payloadless, unclosed, marker, unlinked] using all
        · have unmarked : markerNdx message = none := by
            cases message <;> first | rfl | cases link
          simpa [other, carries, closes, settlesDirectly, payloadless, unclosed, unmarked, link] using all
      · intro own
        subst own
        refine .inr ?_
        rcases settles with marker | link
        · simpa [carries, closes, settlesDirectly, payloadless, unclosed, marker] using all
        · simpa [carries, closes, settlesDirectly, payloadless, unclosed, link] using all

/-! ### Requests -/

/-- The script the sender makes of a message. -/
inductive RemoteSenderSession.Serves (sender : RemoteSenderSession) (message : ReceiverMsg) :
    List Outgoing → Prop where
  | answered {ndx : Ndx} {item : ObservedItem} {messages : List SenderMsg} (asked : asks ndx message = true)
      (known : sender.ndxTable.get ndx = some item) (answers : Answers ndx messages) :
      Serves sender message (tagged ndx messages)
  | directory {ndx : Ndx} {item : ObservedItem} {messages : List SenderMsg} (asked : asks ndx message = true)
      (known : sender.ndxTable.get ndx = some item) (plain : isPlainDirectory item = true)
      (neutral : ∀ message ∈ messages, Neutral message) : Serves sender message (tagged ndx messages)
  | unanswered {ndx : Ndx} (asked : asks ndx message = true) (unknown : sender.ndxTable.get ndx = none) :
      Serves sender message []
  | concluded (unasked : ∀ ndx, asks ndx message = false) (finished : message = .requestsDone) :
      Serves sender message [⟨none, .transferDone⟩]
  | noted (unasked : ∀ ndx, asks ndx message = false) : Serves sender message []

theorem asks_eq {message : ReceiverMsg} {owner : Ndx} (asked : asks owner message = true) (ndx : Ndx) :
    asks ndx message = decide (owner = ndx) := by
  cases message <;> simp_all [asks, requestNdx, redoNdx]

namespace RemoteSenderSession

theorem serve_full (enableAcl : Bool) (answers : SourceAnswers) (sender : RemoteSenderSession)
    {message : ReceiverMsg} {ndx : Ndx} {item : ObservedItem} (asked : asks ndx message = true)
    (known : sender.ndxTable.get ndx = some item) :
    sender.Serves message (tagged ndx (sendFullTransfer enableAcl answers item ndx).1) := by
  cases plain : isPlainDirectory item with
  | true => exact .directory asked known plain (sendFullTransfer_directory enableAcl answers ndx plain)
  | false => exact .answered asked known (sendFullTransfer_answers enableAcl answers ndx plain)

theorem serve_serves (config : Config) (answers : SourceAnswers) {sender : RemoteSenderSession}
    (idle : sender.script = []) (message : ReceiverMsg) :
    sender.Serves message (sender.serve config answers message).script := by
  cases message with
  | transferRequest ndx decision =>
      have asked : asks ndx (.transferRequest ndx decision) = true := by simp [asks, requestNdx]
      simp only [serve]
      split
      · next unknown =>
          rw [idle]
          exact .unanswered asked unknown
      · next item known => exact sender.serve_full config.enableAcl answers asked known
  | deltaTransferRequest ndx blockSize signatures =>
      have asked : asks ndx (.deltaTransferRequest ndx blockSize signatures) = true := by
        simp [asks, requestNdx]
      simp only [serve]
      split
      · next unknown =>
          rw [idle]
          exact .unanswered asked unknown
      · next item known => exact .answered asked known (sendDeltaTransfer_answers _ _ answers item ndx _ _)
  | redo ndx =>
      have asked : asks ndx (.redo ndx) = true := by simp [asks, redoNdx]
      simp only [serve]
      split
      · next unknown =>
          rw [idle]
          exact .unanswered asked unknown
      · next item known => exact sender.serve_full config.enableAcl answers asked known
  | requestsDone =>
      simp only [serve]
      split
      · rw [idle]
        exact .noted fun _ => rfl
      · exact .concluded (fun _ => rfl) rfl
  | error ndx reason =>
      have noted : sender.Serves (.error ndx reason) sender.script := by
        rw [idle]
        exact .noted fun _ => rfl
      simp only [serve]
      split <;> exact noted
  | allDone =>
      have noted : sender.Serves .allDone sender.script := by
        rw [idle]
        exact .noted fun _ => rfl
      simp only [serve]
      split <;> exact noted
  | success ndx | entrySuccess entry | entryError entry reason | classified entry decision
  | classifiedObservation ndx decision | creditGrant bytes =>
      simp only [serve, withLedger, idle]
      exact .noted fun _ => rfl

/-- Serving leaves the advertisement and the credit alone. -/
theorem serve_frame (config : Config) (answers : SourceAnswers) (sender : RemoteSenderSession)
    (message : ReceiverMsg) :
    (sender.serve config answers message).inventory = sender.inventory ∧
      (sender.serve config answers message).ndxTable = sender.ndxTable ∧
      (sender.serve config answers message).credit = sender.credit := by
  cases message with
  | transferRequest ndx decision | deltaTransferRequest ndx blockSize signatures | redo ndx | requestsDone
  | error ndx reason | allDone =>
      simp only [serve]
      split <;> exact ⟨rfl, rfl, rfl⟩
  | success ndx | entrySuccess entry | entryError entry reason | classified entry decision
  | classifiedObservation ndx decision | creditGrant bytes => exact ⟨rfl, rfl, rfl⟩

end RemoteSenderSession

end Terrasync.App
