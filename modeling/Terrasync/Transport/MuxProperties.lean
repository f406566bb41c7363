import Terrasync.Transport.Mux

/-! A connection is a queue for the messages of each kind, whatever the network does to the bytes
and in whatever order the tasks run: every step of it is a step of the queues, or none. A message is
in its queue as it will be read. -/

set_option autoImplicit false

namespace Terrasync.Transport.Quic

open SyncDelta (Bytes)

variable {Msg : Type} {image : Msg → Msg}

/-! ### One direction of a stream -/

/-- The messages under way on a stream. Where something goes wrong in a run, the reader may have
stopped, or may stop at one of them. -/
structure Line (codec : Codec Msg) (faulty : Prop) (pipe : Pipe) (pending : List Msg) : Prop where
  carries : (pipe.reader.Stopped ∧ faulty) ∨
    (¬pipe.reader.Stopped ∧ pipe.reader.Carries codec pending (pipe.arrived ++ pipe.wire))
  fits : ∀ msg ∈ pending, Fits codec msg ∨ faulty

/-- The length of the frame of a message is not cut. -/
def Framed (codec : Codec Msg) (msg : Msg) : Prop :=
  ∀ frame, writeMsg codec msg = .ok frame → frame.length < 2 ^ 32 + 4

namespace Line

variable {codec : Codec Msg} {faulty : Prop} {pipe : Pipe} {pending : List Msg}

theorem new : Line codec faulty .new [] :=
  ⟨Or.inr ⟨id, Nat.zero_lt_succ _, .nil⟩, fun _ member => by cases member⟩

theorem write (line : Line codec faulty pipe pending) {msg : Msg} {frame : Bytes}
    (written : writeMsg codec msg = .ok frame) (framed : Framed codec msg) (fits : Fits codec msg ∨ faulty) :
    Line codec faulty (pipe.write frame) (pending ++ [msg]) := by
  refine ⟨?_, fun other member => ?_⟩
  · rcases line.carries with stopped | ⟨running, formed, frames⟩
    · exact Or.inl stopped
    · refine Or.inr ⟨running, formed, ?_⟩
      have longer := frames.concat written (framed frame written)
      simpa only [Pipe.write, List.append_assoc] using longer
  · rcases List.mem_append.mp member with inside | new_
    · exact line.fits other inside
    · cases List.mem_singleton.mp new_
      exact fits

theorem arrive (line : Line codec faulty pipe pending) (size : Nat) :
    Line codec faulty (pipe.arrive size) pending := by
  refine ⟨?_, line.fits⟩
  rcases line.carries with stopped | ⟨running, formed, frames⟩
  · exact Or.inl stopped
  · refine Or.inr ⟨running, formed, ?_⟩
    simpa only [Pipe.arrive, List.append_assoc, List.take_append_drop] using frames

theorem lose (line : Line codec faulty pipe pending) (fault : faulty) (finished : Bool) :
    Line codec faulty (pipe.lose finished) pending := by
  refine ⟨Or.inl ⟨?_, fault⟩, line.fits⟩
  unfold Pipe.lose Reader.lose
  cases pipe.reader <;> trivial

theorem read (line : Line codec faulty pipe pending) (lawful : codec.Lawful image) (size : Nat) :
    ((pipe.read codec size).2 = none ∧ Line codec faulty (pipe.read codec size).1 pending) ∨
      ∃ msg later, (pipe.read codec size).2 = some (image msg) ∧ pending = msg :: later ∧
        Line codec faulty (pipe.read codec size).1 later := by
  obtain ⟨wire, arrived, reader⟩ := pipe
  rcases line.carries with ⟨stopped, fault⟩ | ⟨running, carries⟩
  · cases reader with
    | stopped error => exact Or.inl ⟨rfl, Or.inl ⟨trivial, fault⟩, line.fits⟩
    | _ => exact stopped.elim
  · have whole : arrived ++ wire =
        arrived.take (min size reader.need) ++ (arrived.drop (min size reader.need) ++ wire) := by
      rw [← List.append_assoc, List.take_append_drop]
    rw [whole] at carries
    have few : (arrived.take (min size reader.need)).length ≤ reader.need := by
      rw [List.length_take]
      omega
    have taken := take_spec lawful running carries few
    simp only [Pipe.read]
    generalize reader.take codec (arrived.take (min size reader.need)) = result at taken
    cases taken with
    | more still further => exact Or.inl ⟨rfl, Or.inr ⟨still, further⟩, line.fits⟩
    | message first behind =>
        subst first
        refine Or.inr ⟨_, _, rfl, rfl, Or.inr ⟨id, behind⟩, fun other member => ?_⟩
        exact line.fits other (List.mem_cons_of_mem _ member)
    | refused first large =>
        subst first
        refine Or.inl ⟨rfl, Or.inl ⟨trivial, ?_⟩, line.fits⟩
        rcases line.fits _ (List.mem_cons_self ..) with fits | fault
        · exact absurd fits large
        · exact fault

/-- A reader that waits for bytes which nobody sends is between two frames. -/
theorem drained (line : Line codec False pipe pending) (wire : pipe.wire = []) (arrived : pipe.arrived = [])
    (waiting : pipe.reader.need ≠ 0) : pending = [] := by
  obtain ⟨-, never⟩ | ⟨-, formed, frames⟩ := line.carries
  · exact never.elim
  rw [wire, arrived, List.append_nil, List.append_nil] at frames
  by_contra some_
  have bytes : pipe.reader.held ≠ [] := fun none_ => some_ (by rw [none_] at frames; exact frames.empty)
  obtain ⟨msg, later, raw, payload, flags, rest, -, -, -, small, parts, -⟩ := frames.parts bytes
  have lengths := congrArg List.length parts
  simp only [List.length_append, Lib.length_littleEndian, List.length_cons] at lengths
  cases reader : pipe.reader with
  | length got =>
      rw [reader] at formed lengths
      simp only [Reader.WellFormed, Reader.held] at formed lengths
      omega
  | flags total =>
      rw [reader] at lengths
      simp only [Reader.held, Lib.length_littleEndian] at lengths
      omega
  | payload total bits got =>
      rw [reader] at formed lengths parts waiting
      simp only [Reader.WellFormed, Reader.held, Reader.need] at formed lengths parts waiting
      obtain ⟨prefix_, -⟩ := List.append_inj parts (by simp only [Lib.length_littleEndian])
      have back := congrArg Lib.ofLittleEndian prefix_
      have inside : total < 256 ^ 4 := by
        have := formed.2.1
        simp only [maxMessageSize] at this
        omega
      rw [Lib.ofLittleEndian_littleEndian inside, Lib.ofLittleEndian_littleEndian small] at back
      simp only [List.length_append, Lib.length_littleEndian, List.length_cons] at lengths
      omega
  | stopped error =>
      rw [reader] at waiting
      exact waiting rfl

end Line

/-! ### A connection and its queues -/

def plain (msgs : List WireReceiverMsg) : List WireReceiverMsg := msgs.filter fun msg => msg.grant.isNone

def ofKind {Msg : Type} (kindOf : Msg → StreamKind) (kind : StreamKind) (msgs : List Msg) : List Msg :=
  msgs.filter fun msg => kindOf msg = kind

theorem ofKind_append {kindOf : Msg → StreamKind} {kind : StreamKind} (first second : List Msg) :
    ofKind kindOf kind (first ++ second) = ofKind kindOf kind first ++ ofKind kindOf kind second :=
  List.filter_append ..

theorem ofKind_all {kindOf : Msg → StreamKind} {kind : StreamKind} {msgs : List Msg}
    (all : ∀ msg ∈ msgs, kindOf msg = kind) : ofKind kindOf kind msgs = msgs :=
  List.filter_eq_self.mpr fun msg member => decide_eq_true (all msg member)

theorem ofKind_other {kindOf : Msg → StreamKind} {kind other : StreamKind} {msgs : List Msg}
    (all : ∀ msg ∈ msgs, kindOf msg = other) (different : kind ≠ other) : ofKind kindOf kind msgs = [] :=
  List.filter_eq_nil_iff.mpr fun msg member => by
    rw [all msg member, decide_eq_true_eq]
    exact different.symm

theorem plain_append (first second : List WireReceiverMsg) : plain (first ++ second) = plain first ++ plain second :=
  List.filter_append ..

/-- What the sender has written on a stream is in its queue: what the receiver will find in its
channel, and what is on the way. -/
structure Up (codecs : Codecs) (snapshots : Snapshots) (faulty : Prop) (kind : StreamKind) (pipe : Pipe)
    (reading : Bool) (incoming queue : List WireSenderMsg) : Prop where
  queue : ∃ pending, Line codecs.sender faulty pipe pending ∧ (∀ msg ∈ pending, msg.streamKind = kind) ∧
    queue = ofKind WireSenderMsg.streamKind kind incoming ++ pending.map (WireSenderMsg.image snapshots)
  untouched : reading = false → pipe.reader = .length [] ∨ pipe.reader.Stopped

/-- What the receiver has written on a stream, as the sender will see it. -/
structure Down (codecs : Codecs) (faulty : Prop) (kind : StreamKind) (pipe : Pipe) (reading : Bool)
    (incoming raw queue : List WireReceiverMsg) (grants : List Nat) : Prop where
  queue : ∃ pending, Line codecs.receiver faulty pipe pending ∧ (∀ msg ∈ pending, msg.streamKind = kind) ∧
    queue = ofKind WireReceiverMsg.streamKind kind (incoming ++ plain raw) ++ plain pending ∧
      (kind = .ackProgress →
        grants = raw.filterMap WireReceiverMsg.grant ++ pending.filterMap WireReceiverMsg.grant)
  untouched : reading = false → pipe.reader = .length [] ∨ pipe.reader.Stopped

/-- The queues are what is under way in the connection. -/
structure Follows (codecs : Codecs) (snapshots : Snapshots) (faulty : Prop) (connection : Connection)
    (streams : Streams) : Prop where
  up : ∀ kind, Up codecs snapshots faulty kind (connection.toReceiver kind)
    (reading connection.accepted connection.ackAccepted .receiver kind) connection.receiverIncoming
    (streams.up kind)
  down : ∀ kind, Down codecs faulty kind (connection.toSender kind)
    (reading connection.accepted connection.ackAccepted .sender kind) connection.senderIncoming
    connection.rawIncoming (streams.down kind) streams.grants

/-- No message of the run is so long that its length is cut. -/
def Uncut (codecs : Codecs) : Action → Prop
  | .send msg => Framed codecs.sender msg
  | .reply msg => Framed codecs.receiver msg
  | _ => True

/-- No stream of the run is lost, and no message is too large. -/
def Clean (codecs : Codecs) : Action → Prop
  | .send msg => Fits codecs.sender msg
  | .reply msg => Fits codecs.receiver msg
  | .lose .. => False
  | _ => True

/-- Both conditions, by whether something may go wrong. -/
def Sound (codecs : Codecs) (faulty : Prop) : Action → Prop
  | .send msg => Framed codecs.sender msg ∧ (Fits codecs.sender msg ∨ faulty)
  | .reply msg => Framed codecs.receiver msg ∧ (Fits codecs.receiver msg ∨ faulty)
  | .lose .. => faulty
  | _ => True

theorem Fits.framed {codec : Codec Msg} {msg : Msg} (fits : Fits codec msg) : Framed codec msg := by
  intro frame written
  obtain ⟨raw, payload, flags, encoded, packed, rfl⟩ := writeMsg_eq written
  have := (fits.payload encoded packed).1
  simp only [maxMessageSize] at this
  simp only [List.length_append, Lib.length_littleEndian, List.length_singleton]
  omega

theorem sound_of_uncut {codecs : Codecs} {action : Action} (uncut : Uncut codecs action) :
    Sound codecs True action := by
  cases action with
  | send msg => exact ⟨uncut, Or.inr trivial⟩
  | reply msg => exact ⟨uncut, Or.inr trivial⟩
  | _ => trivial

theorem sound_of_clean {codecs : Codecs} {action : Action} (clean : Clean codecs action) :
    Sound codecs False action := by
  cases action with
  | send msg => exact ⟨Fits.framed clean, Or.inl clean⟩
  | reply msg => exact ⟨Fits.framed clean, Or.inl clean⟩
  | lose side kind finished => exact clean
  | _ => trivial

section Steps

variable {codecs : Codecs} {snapshots : Snapshots} {faulty : Prop} {connection next : Connection} {streams : Streams}

theorem follows_new (credit : SenderCreditLedger) : Follows codecs snapshots faulty (.new credit) .empty := by
  constructor
  · intro kind
    refine ⟨⟨[], Line.new, ?_, rfl⟩, fun _ => Or.inl rfl⟩
    intro _ member
    cases member
  · intro kind
    refine ⟨⟨[], Line.new, ?_, rfl, fun _ => rfl⟩, fun _ => Or.inl rfl⟩
    intro _ member
    cases member

theorem stopped_lose (pipe : Pipe) (finished : Bool) : (pipe.lose finished).reader.Stopped := by
  unfold Pipe.lose Reader.lose
  cases pipe.reader <;> trivial

namespace Up

variable {kind : StreamKind} {pipe : Pipe} {reading : Bool} {incoming queue : List WireSenderMsg}

theorem write (up : Up codecs snapshots faulty kind pipe reading incoming queue) {msg : WireSenderMsg} {frame : Bytes}
    (written : writeMsg codecs.sender msg = .ok frame) (framed : Framed codecs.sender msg)
    (fits : Fits codecs.sender msg ∨ faulty) (here : msg.streamKind = kind) :
    Up codecs snapshots faulty kind (pipe.write frame) reading incoming (queue ++ [msg.image snapshots]) := by
  obtain ⟨⟨pending, line, kinds, rfl⟩, untouched⟩ := up
  refine ⟨⟨pending ++ [msg], line.write written framed fits, ?_, ?_⟩, untouched⟩
  · intro other member
    rcases List.mem_append.mp member with inside | new_
    · exact kinds other inside
    · cases List.mem_singleton.mp new_
      exact here
  · rw [List.map_append, List.map_singleton, List.append_assoc]

theorem arrive (up : Up codecs snapshots faulty kind pipe reading incoming queue) (size : Nat) :
    Up codecs snapshots faulty kind (pipe.arrive size) reading incoming queue :=
  have ⟨⟨pending, line, rest⟩, untouched⟩ := up
  ⟨⟨pending, line.arrive size, rest⟩, untouched⟩

theorem lose (up : Up codecs snapshots faulty kind pipe reading incoming queue) (fault : faulty) (finished : Bool) :
    Up codecs snapshots faulty kind (pipe.lose finished) reading incoming queue :=
  have ⟨⟨pending, line, rest⟩, _⟩ := up
  ⟨⟨pending, line.lose fault finished, rest⟩, fun _ => Or.inr (stopped_lose pipe finished)⟩

/-- The reader may forward the first message on the way. -/
theorem read (up : Up codecs snapshots faulty kind pipe true incoming queue) (lawful : codecs.Lawful snapshots)
    (size : Nat) :
    Up codecs snapshots faulty kind (pipe.read codecs.sender size).1 true
        (incoming ++ (pipe.read codecs.sender size).2.toList) queue ∧
      ∀ msg ∈ (pipe.read codecs.sender size).2, msg.streamKind = kind := by
  obtain ⟨⟨pending, line, kinds, rfl⟩, -⟩ := up
  obtain ⟨nothing, further⟩ | ⟨msg, later, found, rfl, behind⟩ := line.read lawful.sender size
  · rw [nothing]
    refine ⟨⟨⟨pending, further, kinds, ?_⟩, fun idle => by cases idle⟩, fun _ member => by cases member⟩
    rw [Option.toList_none, List.append_nil]
  · have here := kinds msg (List.mem_cons_self ..)
    have others : ∀ other ∈ later, other.streamKind = kind :=
      fun other member => kinds other (List.mem_cons_of_mem _ member)
    rw [found]
    refine ⟨⟨⟨later, behind, others, ?_⟩, fun idle => by cases idle⟩, fun other member => ?_⟩
    · have first : ofKind WireSenderMsg.streamKind kind [msg.image snapshots] = [msg.image snapshots] :=
        ofKind_all (by simpa using here)
      rw [ofKind_append, Option.toList_some, first, List.append_assoc, List.singleton_append, List.map_cons]
    · cases member
      rw [WireSenderMsg.streamKind_image]
      exact here

/-- A message of another stream is forwarded. -/
theorem other (up : Up codecs snapshots faulty kind pipe reading incoming queue) {msgs : List WireSenderMsg}
    {there : StreamKind} (all : ∀ msg ∈ msgs, msg.streamKind = there) (different : kind ≠ there) :
    Up codecs snapshots faulty kind pipe reading (incoming ++ msgs) queue := by
  obtain ⟨⟨pending, line, kinds, rfl⟩, untouched⟩ := up
  refine ⟨⟨pending, line, kinds, ?_⟩, untouched⟩
  rw [ofKind_append, ofKind_other all different, List.append_nil]

theorem reads (up : Up codecs snapshots faulty kind pipe reading incoming queue) {after : Bool}
    (more : reading = true → after = true) : Up codecs snapshots faulty kind pipe after incoming queue := by
  refine ⟨up.queue, fun idle => up.untouched ?_⟩
  cases reading with
  | false => rfl
  | true =>
      rw [more rfl] at idle
      cases idle

end Up

namespace Down

variable {kind : StreamKind} {pipe : Pipe} {reading : Bool} {incoming raw queue : List WireReceiverMsg}
  {grants : List Nat}

theorem arrive (down : Down codecs faulty kind pipe reading incoming raw queue grants) (size : Nat) :
    Down codecs faulty kind (pipe.arrive size) reading incoming raw queue grants :=
  have ⟨⟨pending, line, rest⟩, untouched⟩ := down
  ⟨⟨pending, line.arrive size, rest⟩, untouched⟩

theorem lose (down : Down codecs faulty kind pipe reading incoming raw queue grants) (fault : faulty)
    (finished : Bool) : Down codecs faulty kind (pipe.lose finished) reading incoming raw queue grants :=
  have ⟨⟨pending, line, rest⟩, _⟩ := down
  ⟨⟨pending, line.lose fault finished, rest⟩, fun _ => Or.inr (stopped_lose pipe finished)⟩

theorem reads (down : Down codecs faulty kind pipe reading incoming raw queue grants) {after : Bool}
    (more : reading = true → after = true) : Down codecs faulty kind pipe after incoming raw queue grants := by
  refine ⟨down.queue, fun idle => down.untouched ?_⟩
  cases reading with
  | false => rfl
  | true =>
      rw [more rfl] at idle
      cases idle

theorem write_plain (down : Down codecs faulty kind pipe reading incoming raw queue grants) {msg : WireReceiverMsg}
    {frame : Bytes} (written : writeMsg codecs.receiver msg = .ok frame) (framed : Framed codecs.receiver msg)
    (fits : Fits codecs.receiver msg ∨ faulty) (here : msg.streamKind = kind)
    (ordinary : msg.grant = none) :
    Down codecs faulty kind (pipe.write frame) reading incoming raw (queue ++ [msg]) grants := by
  obtain ⟨⟨pending, line, kinds, rfl, granted⟩, untouched⟩ := down
  have single : plain [msg] = [msg] := by simp [plain, ordinary]
  refine ⟨⟨pending ++ [msg], line.write written framed fits, ?_, ?_, fun ack => ?_⟩, untouched⟩
  · intro other member
    rcases List.mem_append.mp member with inside | new_
    · exact kinds other inside
    · cases List.mem_singleton.mp new_
      exact here
  · rw [plain_append, single, List.append_assoc]
  · rw [List.filterMap_append, List.filterMap_cons_none ordinary, List.filterMap_nil, List.append_nil]
    exact granted ack

theorem write_grant (down : Down codecs faulty kind pipe reading incoming raw queue grants) {msg : WireReceiverMsg}
    {frame : Bytes} {bytes : Nat} (written : writeMsg codecs.receiver msg = .ok frame)
    (framed : Framed codecs.receiver msg) (fits : Fits codecs.receiver msg ∨ faulty)
    (here : msg.streamKind = kind) (grant : msg.grant = some bytes) :
    Down codecs faulty kind (pipe.write frame) reading incoming raw queue (grants ++ [bytes]) := by
  obtain ⟨⟨pending, line, kinds, rfl, granted⟩, untouched⟩ := down
  have nothing : plain [msg] = [] := by simp [plain, grant]
  refine ⟨⟨pending ++ [msg], line.write written framed fits, ?_, ?_, fun ack => ?_⟩, untouched⟩
  · intro other member
    rcases List.mem_append.mp member with inside | new_
    · exact kinds other inside
    · cases List.mem_singleton.mp new_
      exact here
  · rw [plain_append, nothing, List.append_nil]
  · rw [granted ack, List.filterMap_append, List.filterMap_cons_some grant, List.filterMap_nil,
      List.append_assoc]

/-- The grants of another stream. -/
theorem regrant (down : Down codecs faulty kind pipe reading incoming raw queue grants)
    (elsewhere : kind ≠ .ackProgress) (others : List Nat) :
    Down codecs faulty kind pipe reading incoming raw queue others :=
  have ⟨⟨pending, line, kinds, same, _⟩, untouched⟩ := down
  ⟨⟨pending, line, kinds, same, fun ack => absurd ack elsewhere⟩, untouched⟩

theorem read (down : Down codecs faulty kind pipe true incoming raw queue grants)
    (lawful : codecs.Lawful snapshots) (size : Nat) :
    Down codecs faulty kind (pipe.read codecs.receiver size).1 true incoming
        (raw ++ (pipe.read codecs.receiver size).2.toList) queue grants ∧
      ∀ msg ∈ (pipe.read codecs.receiver size).2, msg.streamKind = kind := by
  obtain ⟨⟨pending, line, kinds, rfl, granted⟩, -⟩ := down
  obtain ⟨nothing, further⟩ | ⟨msg, later, found, rfl, behind⟩ := line.read lawful.receiver size
  · rw [nothing]
    refine ⟨⟨⟨pending, further, kinds, ?_, ?_⟩, fun idle => by cases idle⟩, fun _ member => by cases member⟩
    · rw [Option.toList_none, List.append_nil]
    · rw [Option.toList_none, List.append_nil]
      exact granted
  · have here := kinds msg (List.mem_cons_self ..)
    have others : ∀ other ∈ later, other.streamKind = kind :=
      fun other member => kinds other (List.mem_cons_of_mem _ member)
    have split_ : plain (msg :: later) = plain [msg] ++ plain later := plain_append [msg] later
    have whole : ofKind WireReceiverMsg.streamKind kind (plain [msg]) = plain [msg] := by
      refine ofKind_all fun other member => ?_
      cases List.mem_singleton.mp (List.mem_filter.mp member).1
      exact here
    rw [found, id]
    refine ⟨⟨⟨later, behind, others, ?_, fun ack => ?_⟩, fun idle => by cases idle⟩, fun other member => ?_⟩
    · rw [Option.toList_some, plain_append, ← List.append_assoc, ofKind_append _ (plain [msg]), whole, split_,
        List.append_assoc]
    · have both : raw ++ [msg] ++ later = raw ++ msg :: later := List.append_assoc ..
      rw [granted ack, Option.toList_some, ← List.filterMap_append, ← List.filterMap_append, both]
    · cases member
      exact here

theorem other (down : Down codecs faulty kind pipe reading incoming raw queue grants) {msgs : List WireReceiverMsg}
    {there : StreamKind} (all : ∀ msg ∈ msgs, msg.streamKind = there) (different : kind ≠ there) :
    Down codecs faulty kind pipe reading incoming (raw ++ msgs) queue grants := by
  obtain ⟨⟨pending, line, kinds, rfl, granted⟩, untouched⟩ := down
  refine ⟨⟨pending, line, kinds, ?_, fun ack => ?_⟩, untouched⟩
  · have nothing : ofKind WireReceiverMsg.streamKind kind (plain msgs) = [] :=
      ofKind_other (fun msg member => all msg (List.mem_filter.mp member).1) different
    rw [plain_append, ← List.append_assoc, ofKind_append _ (plain msgs), nothing, List.append_nil]
  · -- a grant travels on the stream of the acknowledgements only
    have none_ : msgs.filterMap WireReceiverMsg.grant = [] := by
      refine List.filterMap_eq_nil_iff.mpr fun msg member => ?_
      cases granted : msg.grant with
      | none => rfl
      | some bytes =>
          have there_ := (WireReceiverMsg.grant_streamKind granted).symm.trans (all msg member)
          exact absurd (ack.trans there_) different
    rw [granted ack, List.filterMap_append, none_, List.append_nil]

/-- The filter passes a message on. -/
theorem pass {msg : WireReceiverMsg} (down : Down codecs faulty kind pipe reading incoming (msg :: raw) queue grants)
    (ordinary : msg.grant = none) :
    Down codecs faulty kind pipe reading (incoming ++ [msg]) raw queue grants := by
  obtain ⟨⟨pending, line, kinds, rfl, granted⟩, untouched⟩ := down
  have first : plain (msg :: raw) = msg :: plain raw := by simp [plain, ordinary]
  refine ⟨⟨pending, line, kinds, ?_, fun ack => ?_⟩, untouched⟩
  · rw [first, List.append_assoc, List.singleton_append]
  · rw [granted ack, List.filterMap_cons_none ordinary]

/-- The filter takes a grant out. -/
theorem takeGrant {msg : WireReceiverMsg} {bytes : Nat} {others : List Nat}
    (down : Down codecs faulty kind pipe reading incoming (msg :: raw) queue grants)
    (grant : msg.grant = some bytes) (same : kind = .ackProgress → grants = bytes :: others) :
    Down codecs faulty kind pipe reading incoming raw queue others := by
  obtain ⟨⟨pending, line, kinds, rfl, granted⟩, untouched⟩ := down
  have first : plain (msg :: raw) = plain raw := by simp [plain, grant]
  refine ⟨⟨pending, line, kinds, ?_, fun ack => ?_⟩, untouched⟩
  · rw [first]
  · have both := (same ack).symm.trans (granted ack)
    rw [List.filterMap_cons_some grant, List.cons_append] at both
    exact (List.cons.inj both).2

end Down

theorem send_cases {msg : WireSenderMsg} (sent : connection.send codecs msg = some next) :
    ∃ frame credit, writeMsg codecs.sender msg = .ok frame ∧
      next = { connection.setToReceiver msg.streamKind
        ((connection.toReceiver msg.streamKind).write frame) with credit } := by
  simp only [Connection.send] at sent
  cases written : writeMsg codecs.sender msg with
  | error error =>
      simp only [written] at sent
      split at sent
      next => cases sent
      next => split at sent <;> cases sent
  | ok frame =>
      simp only [written] at sent
      split at sent
      next =>
          cases sent
          exact ⟨frame, _, rfl, rfl⟩
      next =>
          split at sent
          next credit _ =>
              cases sent
              exact ⟨frame, credit, rfl, rfl⟩
          next => cases sent
          next => cases sent

theorem follows_send {msg : WireSenderMsg} (follows : Follows codecs snapshots faulty connection streams)
    (sent : connection.send codecs msg = some next) (framed : Framed codecs.sender msg)
    (fits : Fits codecs.sender msg ∨ faulty) :
    ∃ after, streams.step snapshots (.sent msg) = some after ∧ Follows codecs snapshots faulty next after := by
  obtain ⟨frame, credit, written, rfl⟩ := send_cases sent
  refine ⟨_, rfl, fun kind => ?_, follows.down⟩
  have up := follows.up kind
  by_cases same : kind = msg.streamKind
  · subst same
    simpa only [Connection.setToReceiver, Function.update_self] using up.write written framed fits rfl
  · simpa only [Connection.setToReceiver, Function.update_of_ne same] using up

theorem follows_reply {msg : WireReceiverMsg} (follows : Follows codecs snapshots faulty connection streams)
    (replied : connection.reply codecs msg = some next) (framed : Framed codecs.receiver msg)
    (fits : Fits codecs.receiver msg ∨ faulty) :
    ∃ after, streams.step snapshots (.replied msg) = some after ∧ Follows codecs snapshots faulty next after := by
  simp only [Connection.reply] at replied
  split at replied
  next _ =>
      split at replied
      next frame written =>
          cases replied
          cases grant : msg.grant with
          | none =>
              refine ⟨⟨streams.up, Function.update streams.down msg.streamKind
                (streams.down msg.streamKind ++ [msg]), streams.grants⟩,
                by simp only [Streams.step, grant], follows.up, fun kind => ?_⟩
              have down := follows.down kind
              by_cases same : kind = msg.streamKind
              · subst same
                simpa only [Connection.setToSender, Function.update_self] using
                  down.write_plain written framed fits rfl grant
              · simpa only [Connection.setToSender, Function.update_of_ne same] using down
          | some bytes =>
              refine ⟨{ streams with grants := streams.grants ++ [bytes] },
                by simp only [Streams.step, grant], follows.up, fun kind => ?_⟩
              have there : msg.streamKind = .ackProgress := WireReceiverMsg.grant_streamKind grant
              have down := follows.down kind
              by_cases same : kind = msg.streamKind
              · subst same
                simpa only [Connection.setToSender, Function.update_self] using
                  down.write_grant written framed fits rfl grant
              · rw [there] at same
                simpa only [Connection.setToSender, there, Function.update_of_ne same] using down.regrant same _
      next => cases replied
  next => cases replied

/-- One pipe is replaced by another that carries the same. -/
theorem follows_setToReceiver (follows : Follows codecs snapshots faulty connection streams) {kind : StreamKind}
    {pipe : Pipe}
    (up : Up codecs snapshots faulty kind pipe
      (reading connection.accepted connection.ackAccepted .receiver kind) connection.receiverIncoming
      (streams.up kind)) : Follows codecs snapshots faulty (connection.setToReceiver kind pipe) streams := by
  refine ⟨fun other => ?_, follows.down⟩
  by_cases same : other = kind
  · subst same
    simpa only [Connection.setToReceiver, Function.update_self] using up
  · simpa only [Connection.setToReceiver, Function.update_of_ne same] using follows.up other

theorem follows_setToSender (follows : Follows codecs snapshots faulty connection streams) {kind : StreamKind}
    {pipe : Pipe}
    (down : Down codecs faulty kind pipe (reading connection.accepted connection.ackAccepted .sender kind)
      connection.senderIncoming connection.rawIncoming (streams.down kind) streams.grants) :
    Follows codecs snapshots faulty (connection.setToSender kind pipe) streams := by
  refine ⟨follows.up, fun other => ?_⟩
  by_cases same : other = kind
  · subst same
    simpa only [Connection.setToSender, Function.update_self] using down
  · simpa only [Connection.setToSender, Function.update_of_ne same] using follows.down other

theorem follows_read {side : Side} {kind : StreamKind} {size : Nat} (lawful : codecs.Lawful snapshots)
    (follows : Follows codecs snapshots faulty connection streams)
    (read : connection.read codecs side kind size = some next) : Follows codecs snapshots faulty next streams := by
  simp only [Connection.read] at read
  split at read
  next running =>
      cases side with
      | receiver =>
          cases read
          have here := follows.up kind
          rw [running] at here
          obtain ⟨up, kinds⟩ := here.read lawful size
          refine ⟨fun other => ?_, follows.down⟩
          by_cases same : other = kind
          · subst same
            simpa only [Connection.setToReceiver, Function.update_self, running] using up
          · have elsewhere := (follows.up other).other
              (fun msg member => kinds msg (Option.mem_toList.mp member)) same
            simpa only [Connection.setToReceiver, Function.update_of_ne same] using elsewhere
      | sender =>
          cases read
          have here := follows.down kind
          rw [running] at here
          obtain ⟨down, kinds⟩ := here.read lawful size
          refine ⟨follows.up, fun other => ?_⟩
          by_cases same : other = kind
          · subst same
            simpa only [Connection.setToSender, Function.update_self, running] using down
          · have elsewhere := (follows.down other).other
              (fun msg member => kinds msg (Option.mem_toList.mp member)) same
            simpa only [Connection.setToSender, Function.update_of_ne same] using elsewhere
  next => cases read

theorem follows_filter {seen : Option Seen} (follows : Follows codecs snapshots faulty connection streams)
    (filtered : connection.filter = some (next, seen)) :
    ∃ after, (Streams.machine snapshots).exec streams seen.toList = some after ∧
      Follows codecs snapshots faulty next after := by
  unfold Connection.filter at filtered
  split at filtered
  next => cases filtered
  next bytes rawIncoming raw =>
      cases filtered
      have passed (kind) (others : List Nat) (same : kind = .ackProgress → streams.grants = bytes :: others) :=
        (raw ▸ follows.down kind).takeGrant rfl same
      obtain ⟨pending, -, -, -, granted⟩ := (follows.down .ackProgress).queue
      have grant : WireReceiverMsg.grant (.transfer (.creditGrant bytes)) = some bytes := rfl
      have first := granted rfl
      rw [raw, List.filterMap_cons_some grant, List.cons_append] at first
      refine ⟨⟨streams.up, streams.down, rawIncoming.filterMap WireReceiverMsg.grant ++
        pending.filterMap WireReceiverMsg.grant⟩, ?_, follows.up, fun kind => passed kind _ fun _ => first⟩
      simp only [Option.toList_some, Lib.Machine.exec, Streams.machine, Streams.step, first, if_true,
        Option.bind_some]
  next msg rawIncoming ordinary raw =>
      cases filtered
      have plain_ : msg.grant = none := by
        cases granted : msg.grant with
        | none => rfl
        | some bytes => exact absurd (WireReceiverMsg.grant_eq_some granted) (ordinary bytes)
      exact ⟨streams, rfl, follows.up, fun kind => (raw ▸ follows.down kind).pass plain_⟩

theorem follows_receive {msg : WireSenderMsg} {incoming : List WireSenderMsg}
    (follows : Follows codecs snapshots faulty connection streams)
    (first : connection.receiverIncoming = msg :: incoming) :
    ∃ after, streams.step snapshots (.received msg) = some after ∧
      Follows codecs snapshots faulty { connection with receiverIncoming := incoming } after := by
  have ups := follows.up
  rw [first] at ups
  obtain ⟨pending, line, kinds, queue⟩ := (ups msg.streamKind).queue
  have head : ofKind WireSenderMsg.streamKind msg.streamKind (msg :: incoming) =
      msg :: ofKind WireSenderMsg.streamKind msg.streamKind incoming :=
    List.filter_cons_of_pos (decide_eq_true rfl)
  rw [head, List.cons_append] at queue
  refine ⟨⟨Function.update streams.up msg.streamKind
    (ofKind WireSenderMsg.streamKind msg.streamKind incoming ++ pending.map (WireSenderMsg.image snapshots)),
    streams.down, streams.grants⟩, ?_,
    fun kind => ?_, follows.down⟩
  · simp only [Streams.step, queue, if_true]
  · by_cases same : kind = msg.streamKind
    · subst same
      refine ⟨⟨pending, line, kinds, ?_⟩, (ups _).untouched⟩
      simp only [Function.update_self]
    · obtain ⟨⟨others, line, kinds, queue⟩, untouched⟩ := ups kind
      refine ⟨⟨others, line, kinds, ?_⟩, untouched⟩
      have skipped : ofKind WireSenderMsg.streamKind kind (msg :: incoming) =
          ofKind WireSenderMsg.streamKind kind incoming :=
        List.filter_cons_of_neg (by simpa using fun here => same here.symm)
      simp only [Function.update_of_ne same, queue, skipped]

theorem follows_hear {msg : WireReceiverMsg} {incoming : List WireReceiverMsg}
    (follows : Follows codecs snapshots faulty connection streams)
    (first : connection.senderIncoming = msg :: incoming) :
    ∃ after, streams.step snapshots (.heard msg) = some after ∧
      Follows codecs snapshots faulty { connection with senderIncoming := incoming } after := by
  have downs := follows.down
  rw [first] at downs
  obtain ⟨pending, line, kinds, queue, granted⟩ := (downs msg.streamKind).queue
  have head : ofKind WireReceiverMsg.streamKind msg.streamKind (msg :: incoming ++ plain connection.rawIncoming) =
      msg :: ofKind WireReceiverMsg.streamKind msg.streamKind (incoming ++ plain connection.rawIncoming) :=
    List.filter_cons_of_pos (decide_eq_true rfl)
  rw [head, List.cons_append] at queue
  refine ⟨⟨streams.up, Function.update streams.down msg.streamKind
    (ofKind WireReceiverMsg.streamKind msg.streamKind (incoming ++ plain connection.rawIncoming) ++
      plain pending), streams.grants⟩, ?_, follows.up, fun kind => ?_⟩
  · simp only [Streams.step, queue, if_true]
  · by_cases same : kind = msg.streamKind
    · subst same
      refine ⟨⟨pending, line, kinds, ?_, granted⟩, (downs _).untouched⟩
      simp only [Function.update_self]
    · obtain ⟨⟨others, line, kinds, queue, granted⟩, untouched⟩ := downs kind
      refine ⟨⟨others, line, kinds, ?_, granted⟩, untouched⟩
      have skipped : ofKind WireReceiverMsg.streamKind kind (msg :: incoming ++ plain connection.rawIncoming) =
          ofKind WireReceiverMsg.streamKind kind (incoming ++ plain connection.rawIncoming) :=
        List.filter_cons_of_neg (by simpa using fun here => same here.symm)
      simp only [Function.update_of_ne same, queue, skipped]

theorem exec_one {after : Streams} {event : Seen} (stepped : streams.step snapshots event = some after) :
    (Streams.machine snapshots).exec streams [event] = some after := by
  simp only [Lib.Machine.exec, Streams.machine, stepped, Option.bind_some]

/-- Every step of a connection is what its queues do, or nothing. -/
theorem follows_step {action : Action} {seen : Option Seen} (lawful : codecs.Lawful snapshots)
    (follows : Follows codecs snapshots faulty connection streams)
    (sound : Sound codecs faulty action)
    (stepped : connection.step codecs action = some (next, seen)) :
    ∃ after, (Streams.machine snapshots).exec streams seen.toList = some after ∧
      Follows codecs snapshots faulty next after := by
  cases action with
  | send msg =>
      obtain ⟨sent, done, same⟩ := Option.map_eq_some_iff.mp stepped
      cases same
      obtain ⟨after, moved, follows⟩ := follows_send follows done sound.1 sound.2
      exact ⟨after, exec_one moved, follows⟩
  | reply msg =>
      obtain ⟨replied, done, same⟩ := Option.map_eq_some_iff.mp stepped
      cases same
      obtain ⟨after, moved, follows⟩ := follows_reply follows done sound.1 sound.2
      exact ⟨after, exec_one moved, follows⟩
  | arrive side kind size =>
      cases side with
      | receiver =>
          cases stepped
          exact ⟨streams, rfl, follows_setToReceiver follows ((follows.up kind).arrive size)⟩
      | sender =>
          cases stepped
          exact ⟨streams, rfl, follows_setToSender follows ((follows.down kind).arrive size)⟩
  | read side kind size =>
      obtain ⟨reached, done, same⟩ := Option.map_eq_some_iff.mp stepped
      cases same
      exact ⟨streams, rfl, follows_read lawful follows done⟩
  | lose side kind finished =>
      cases side with
      | receiver =>
          cases stepped
          exact ⟨streams, rfl, follows_setToReceiver follows ((follows.up kind).lose sound finished)⟩
      | sender =>
          cases stepped
          exact ⟨streams, rfl, follows_setToSender follows ((follows.down kind).lose sound finished)⟩
  | accept =>
      simp only [Connection.step] at stepped
      split at stepped
      next =>
          cases stepped
          refine ⟨streams, rfl, fun kind => (follows.up kind).reads fun now => ?_, follows.down⟩
          have now : index kind < connection.accepted := of_decide_eq_true now
          exact decide_eq_true (Nat.lt_succ_of_lt now)
      next => cases stepped
  | acceptAck =>
      simp only [Connection.step] at stepped
      split at stepped
      next =>
          cases stepped
          refine ⟨streams, rfl, follows.up, fun kind => (follows.down kind).reads fun _ => ?_⟩
          exact Bool.or_true _
      next => cases stepped
  | filter => exact follows_filter follows stepped
  | receive =>
      simp only [Connection.step] at stepped
      split at stepped
      next => cases stepped
      next msg incoming first =>
          cases stepped
          obtain ⟨after, moved, follows⟩ := follows_receive follows first
          exact ⟨after, exec_one moved, follows⟩
  | hear =>
      simp only [Connection.step] at stepped
      split at stepped
      next => cases stepped
      next msg incoming first =>
          cases stepped
          obtain ⟨after, moved, follows⟩ := follows_hear follows first
          exact ⟨after, exec_one moved, follows⟩

end Steps

end Terrasync.Transport.Quic
