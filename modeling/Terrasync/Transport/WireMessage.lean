import Terrasync.Transport.Message
import Terrasync.Transport.RemoteEvents

/-! All messages of a connection (`message.rs`) and the stream each of them travels on (`mux.rs`).
Observed entries go as snapshots of the storage engine (`observation_wire.rs`): of a numbered item
only the version it selects is written, so what is read is not always what was sent. -/

set_option autoImplicit false

namespace Terrasync.Transport

open SyncDelta (Bytes)

inductive HashAlgorithm where
  | blake3
deriving DecidableEq, Repr

structure FeatureFlags where
  delta : Bool
  acl : Bool
  delete : Bool
  resume : Bool
  xattr : Bool
  rename : Bool
  compression : Bool
deriving DecidableEq, Repr

structure ProtocolHandshake where
  protocolVersion : UInt32
  minSupportedVersion : UInt32
  features : FeatureFlags
  hashAlgorithm : HashAlgorithm
deriving DecidableEq, Repr

inductive HandshakeResult where
  | accepted (features : FeatureFlags) (copyTags : Bool)
  | rejected (reason : String)
deriving DecidableEq, Repr

/-- The last two fields are `f64`, by their bits. -/
structure ProgressSnapshot where
  receiverId : String
  filesTransferred : UInt64
  dirsCreated : UInt64
  bytesTransferred : UInt64
  filesSkipped : UInt64
  metadataOnly : UInt64
  errorCount : UInt64
  elapsedSecs : UInt64
  speedBytesPerSec : UInt64
deriving DecidableEq, Repr

/-- `SenderMsg`; `transfer` stands for its variants of the per-file transfer phase. -/
inductive WireSenderMsg where
  | handshake (handshake : ProtocolHandshake)
  | auth (token : String)
  | sessionConfig (config : SessionConfig)
  | transfer (msg : SenderMsg)
  | copyEntry (entry : ObservedEntry)
  | tarPacked (tarEntry : ObservedEntry) (manifestEntries : List ObservedEntry)
  | advertisement (event : AdvertisementEvent)
  | remoteSource (event : RemoteSourceEvent)
deriving DecidableEq, Repr

/-- `ReceiverMsg`; `transfer` stands for its variants of the per-file transfer phase. -/
inductive WireReceiverMsg where
  | handshakeAck (result : HandshakeResult)
  | authResult (ok : Bool) (reason : Option String)
  | transfer (msg : ReceiverMsg)
  | metadataUpdateRequest (ndx : Ndx)
  | tarSuccess (tarEntry : ObservedEntry) (manifestEntries : List ObservedEntry)
  | progress (snapshot : ProgressSnapshot)
  | remoteDestination (event : RemoteDestinationEvent)
deriving DecidableEq, Repr

namespace WireSenderMsg

/-- `sender_stream_kind`. -/
def streamKind : WireSenderMsg → StreamKind
  | .handshake _ | .auth _ | .sessionConfig _ => .control
  | .transfer msg => senderStreamKind msg
  | .advertisement _ | .remoteSource (.offer ..) => .fileList
  | .copyEntry _ | .tarPacked .. | .remoteSource _ => .data

/-- `credit_cost`. -/
def creditCost : WireSenderMsg → Option Nat
  | .transfer msg => Transport.creditCost msg
  | .tarPacked tarEntry _ => some tarEntry.getSize
  | .remoteSource (.payload _ _ data) => some data.length
  | _ => none

/-- The sender writes nothing on the stream of the acknowledgements. -/
theorem streamKind_ne_ackProgress (msg : WireSenderMsg) : msg.streamKind ≠ .ackProgress := by
  cases msg with
  | transfer msg => cases msg <;> exact nofun
  | remoteSource event => cases event <;> exact nofun
  | _ => exact nofun

end WireSenderMsg

namespace WireReceiverMsg

/-- `receiver_stream_kind`. -/
def streamKind : WireReceiverMsg → StreamKind
  | .handshakeAck _ | .authResult .. => .control
  | .transfer msg => receiverStreamKind msg
  | .metadataUpdateRequest _ => .fileList
  | .tarSuccess .. | .progress _ | .remoteDestination (.terminal _) => .ackProgress
  | .remoteDestination _ => .fileList

/-- The bytes of a `CreditGrant`. -/
def grant : WireReceiverMsg → Option Nat
  | .transfer (.creditGrant bytes) => some bytes
  | _ => none

theorem grant_eq_some {msg : WireReceiverMsg} {bytes : Nat} (granted : msg.grant = some bytes) :
    msg = .transfer (.creditGrant bytes) := by
  unfold grant at granted
  split at granted
  next =>
      cases granted
      rfl
  next => cases granted

/-- A grant travels with the acknowledgements. -/
theorem grant_streamKind {msg : WireReceiverMsg} {bytes : Nat} (granted : msg.grant = some bytes) :
    msg.streamKind = .ackProgress := by
  rw [grant_eq_some granted]
  rfl

end WireReceiverMsg

/-! ### Observed entries on the wire -/

/-- The snapshots of `data_mover`: of a whole entry, and of one of its versions. -/
structure Snapshots where
  encode : ObservedEntry → Except String Bytes
  encodeVersion : ObservedEntry → Nat → Except String Bytes
  decode : Bytes → Except String ObservedEntry

/-- A snapshot keeps the entry; that of a version keeps its record and nothing else of the history. -/
structure Snapshots.Lawful (snapshots : Snapshots) : Prop where
  whole : ∀ {entry bytes}, snapshots.encode entry = .ok bytes → snapshots.decode bytes = .ok entry
  version : ∀ {entry index bytes}, snapshots.encodeVersion entry index = .ok bytes →
    ∃ record read, (entry.history.bind fun records => records[index]?) = some record ∧
      snapshots.decode bytes = .ok read ∧ read.path = entry.path ∧ read.kind = entry.kind ∧
        read.history = some [record]

namespace Snapshots

/-- `selected::serialize`. -/
def serialize (snapshots : Snapshots) (item : ObservedItem) : Except String Bytes :=
  match item.versionIndex with
  | some index => snapshots.encodeVersion item.entry index
  | none => snapshots.encode item.entry

/-- `selected::deserialize`. -/
def deserialize (snapshots : Snapshots) (bytes : Bytes) : Except String ObservedItem :=
  (snapshots.decode bytes).map .ofEntry

/-- What is read of an item; one that cannot be written is not sent. -/
def selected (snapshots : Snapshots) (item : ObservedItem) : ObservedItem :=
  match (snapshots.serialize item).bind snapshots.deserialize with
  | .ok read => read
  | .error _ => item

/-- Of an item with a selected version, that version arrives and no other. -/
theorem selected_version {snapshots : Snapshots} (lawful : snapshots.Lawful) {item : ObservedItem} {index : Nat}
    {bytes : Bytes} (chosen : item.versionIndex = some index) (written : snapshots.serialize item = .ok bytes) :
    ∃ record, item.version = some record ∧ (snapshots.selected item).entry.history = some [record] ∧
      (snapshots.selected item).version = some record := by
  have encoded : snapshots.encodeVersion item.entry index = .ok bytes := by
    simpa only [serialize, chosen] using written
  obtain ⟨record, read, found, decoded, -, -, alone⟩ := lawful.version encoded
  have read_ : snapshots.selected item = ⟨read, some 0⟩ := by
    simp [selected, written, Except.bind, deserialize, decoded, Except.map, ObservedItem.ofEntry, alone]
  refine ⟨record, ?_, ?_, ?_⟩
  · simpa only [ObservedItem.version, ObservedView.version, ObservedItem.view, chosen, Option.bind_some] using found
  · rw [read_, alone]
  · simp [read_, ObservedItem.version, ObservedView.version, ObservedItem.view, alone]

/-- An item without a selected version arrives with all of its entry. -/
theorem selected_whole {snapshots : Snapshots} (lawful : snapshots.Lawful) {item : ObservedItem} {bytes : Bytes}
    (none_ : item.versionIndex = none) (written : snapshots.serialize item = .ok bytes) :
    snapshots.selected item = .ofEntry item.entry := by
  have encoded : snapshots.encode item.entry = .ok bytes := by
    simpa only [serialize, none_] using written
  simp [selected, written, Except.bind, deserialize, lawful.whole encoded, Except.map]

end Snapshots

/-- What is read of a page of the file list. -/
def DirPageResult.image (snapshots : Snapshots) (page : DirPageResult) : DirPageResult :=
  let read (numbered : NdxEntry) : NdxEntry := { numbered with entry := snapshots.selected numbered.entry }
  { page with files := page.files.map read, subdirs := page.subdirs.map read }

/-- What is read of a message; all others than the pages of the file list carry whole entries. -/
def WireSenderMsg.image (snapshots : Snapshots) : WireSenderMsg → WireSenderMsg
  | .transfer (.filePage page) => .transfer (.filePage (page.image snapshots))
  | msg => msg

@[simp] theorem WireSenderMsg.streamKind_image (snapshots : Snapshots) (msg : WireSenderMsg) :
    (msg.image snapshots).streamKind = msg.streamKind := by
  unfold image
  split <;> rfl

end Terrasync.Transport
