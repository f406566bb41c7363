import Terrasync.Lib.LittleEndian
import Terrasync.SyncDelta.Rolling

/-! Message frames on a QUIC stream (`quic/framing.rs`): four bytes of length, one byte of flags,
the payload. The writer puts a whole frame on the stream; the reader is a task that is suspended
wherever the bytes that have arrived end. -/

set_option autoImplicit false

namespace Terrasync.Transport.Quic

open SyncDelta (Bytes)
open Lib (littleEndian ofLittleEndian)

/-- `MAX_MESSAGE_SIZE`, 256 MiB. -/
def maxMessageSize : Nat := 256 * 1024 * 1024

/-- `COMPRESSION_THRESHOLD`. -/
def compressionThreshold : Nat := 1024

/-- `FLAG_ZSTD`. -/
def flagZstd : UInt8 := 1

inductive QuicTransportError where
  | serializationError (text : String)
  /-- The stream ended, or the connection was lost. -/
  | readError
deriving DecidableEq, Repr

/-- The serialisation of `bincode` and the compression of `zstd`. -/
structure Codec (Msg : Type) where
  encode : Msg → Except String Bytes
  decode : Bytes → Except String Msg
  encodeAll : Bytes → Except String Bytes
  decodeAll : Bytes → Except String Bytes

/-- What is read back of a message is its image; compression loses nothing. -/
structure Codec.Lawful {Msg : Type} (codec : Codec Msg) (image : Msg → Msg) : Prop where
  message : ∀ {msg raw}, codec.encode msg = .ok raw → codec.decode raw = .ok (image msg)
  compressed : ∀ {raw packed}, codec.encodeAll raw = .ok packed → codec.decodeAll packed = .ok raw

variable {Msg : Type} {image : Msg → Msg}

/-! ### Writing -/

/-- The payload and the flags of a serialised message. -/
def pack (codec : Codec Msg) (raw : Bytes) : Except QuicTransportError (Bytes × UInt8) :=
  if compressionThreshold ≤ raw.length then
    match codec.encodeAll raw with
    | .error error => .error (.serializationError s!"zstd compress: {error}")
    | .ok packed => if packed.length < raw.length then .ok (packed, flagZstd) else .ok (raw, 0)
  else .ok (raw, 0)

/-- What `write_msg` puts on the stream. The length is cut to an `u32`. -/
def writeMsg (codec : Codec Msg) (msg : Msg) : Except QuicTransportError Bytes :=
  match codec.encode msg with
  | .error error => .error (.serializationError s!"encode: {error}")
  | .ok raw =>
      match pack codec raw with
      | .error error => .error error
      | .ok (payload, flags) =>
          .ok (littleEndian 4 ((1 + payload.length) % 2 ^ 32) ++ [flags] ++ payload)

/-! ### Reading -/

/-- The serialised message of a payload. -/
def inflate (codec : Codec Msg) (flags : UInt8) (payload : Bytes) : Except QuicTransportError Bytes :=
  if flags &&& flagZstd ≠ 0 then
    match codec.decodeAll payload with
    | .error error => .error (.serializationError s!"zstd decompress: {error}")
    | .ok raw =>
        if maxMessageSize < raw.length then
          .error (.serializationError s!"decompressed size {raw.length} exceeds limit {maxMessageSize} bytes")
        else .ok raw
  else .ok payload

/-- The message of a payload. -/
def unpack (codec : Codec Msg) (flags : UInt8) (payload : Bytes) : Except QuicTransportError Msg :=
  match inflate codec flags payload with
  | .error error => .error error
  | .ok raw =>
      match codec.decode raw with
      | .error error => .error (.serializationError s!"decode: {error}")
      | .ok msg => .ok msg

/-- Where `read_msg` is suspended, and how the loop around it ended: `none` is the end of the
stream. -/
inductive Reader where
  | length (got : Bytes)
  | flags (total : Nat)
  | payload (total : Nat) (flags : UInt8) (got : Bytes)
  | stopped (error : Option QuicTransportError)
deriving DecidableEq, Repr

namespace Reader

/-- How many bytes are missing to the end of the `read_exact` under way. -/
def need : Reader → Nat
  | .length got => 4 - got.length
  | .flags _ => 1
  | .payload total _ got => total - 1 - got.length
  | .stopped _ => 0

/-- Up to so many bytes are taken off the stream. -/
def take (codec : Codec Msg) (reader : Reader) (bytes : Bytes) : Reader × Option Msg :=
  match reader with
  | .length got =>
      let got := got ++ bytes
      if got.length < 4 then (.length got, none)
      else
        let total := ofLittleEndian got
        if 1 ≤ total ∧ total ≤ maxMessageSize then (.flags total, none)
        else (.stopped (some (.serializationError s!"invalid frame size: {total} bytes")), none)
  | .flags total =>
      match bytes with
      | [] => (.flags total, none)
      | bits :: _ => (.payload total bits [], none)
  | .payload total bits got =>
      let got := got ++ bytes
      if got.length < total - 1 then (.payload total bits got, none)
      else
        match unpack codec bits got with
        | .ok msg => (.length [], some msg)
        | .error error => (.stopped (some error), none)
  | .stopped error => (.stopped error, none)

/-- The stream ended or the connection was lost. Only before a frame, or within its length, the
end of the stream is no error. -/
def lose (reader : Reader) (finished : Bool) : Reader :=
  match reader with
  | .length _ => .stopped (if finished then none else some .readError)
  | .stopped error => .stopped error
  | _ => .stopped (some .readError)

end Reader

/-- One direction of a stream: what is under way, what has arrived, and the task that reads. -/
structure Pipe where
  wire : Bytes
  arrived : Bytes
  reader : Reader
deriving DecidableEq, Repr

namespace Pipe

def new : Pipe := ⟨[], [], .length []⟩

def write (pipe : Pipe) (frame : Bytes) : Pipe := { pipe with wire := pipe.wire ++ frame }

def arrive (pipe : Pipe) (size : Nat) : Pipe :=
  { pipe with wire := pipe.wire.drop size, arrived := pipe.arrived ++ pipe.wire.take size }

/-- The reader goes on with at most so many bytes. -/
def read (codec : Codec Msg) (pipe : Pipe) (size : Nat) : Pipe × Option Msg :=
  let size := min size pipe.reader.need
  let taken := pipe.reader.take codec (pipe.arrived.take size)
  ({ pipe with arrived := pipe.arrived.drop size, reader := taken.1 }, taken.2)

def lose (pipe : Pipe) (finished : Bool) : Pipe := { pipe with reader := pipe.reader.lose finished }

end Pipe

/-! ### Frames -/

/-- What a written message looks like. -/
theorem writeMsg_eq {codec : Codec Msg} {msg : Msg} {frame : Bytes} (written : writeMsg codec msg = .ok frame) :
    ∃ raw payload flags, codec.encode msg = .ok raw ∧ pack codec raw = .ok (payload, flags) ∧
      frame = littleEndian 4 ((1 + payload.length) % 2 ^ 32) ++ [flags] ++ payload := by
  unfold writeMsg at written
  split at written
  next => cases written
  next raw encoded =>
      split at written
      next => cases written
      next payload flags packed =>
          cases written
          exact ⟨raw, payload, flags, encoded, packed, rfl⟩

/-- The reader takes the frame of a message. -/
def Fits (codec : Codec Msg) (msg : Msg) : Prop :=
  ∃ raw payload flags, codec.encode msg = .ok raw ∧ pack codec raw = .ok (payload, flags) ∧
    1 + payload.length ≤ maxMessageSize ∧ (flags = flagZstd → raw.length ≤ maxMessageSize)

/-- The bytes of messages one behind the other. -/
inductive Frames (codec : Codec Msg) : List Msg → Bytes → Prop where
  | nil : Frames codec [] []
  | cons {msg : Msg} {rest : List Msg} {frame bytes : Bytes} (written : writeMsg codec msg = .ok frame)
      (short : frame.length < 2 ^ 32 + 4) (later : Frames codec rest bytes) :
      Frames codec (msg :: rest) (frame ++ bytes)

theorem Frames.concat {codec : Codec Msg} {pending : List Msg} {bytes frame : Bytes} {msg : Msg}
    (frames : Frames codec pending bytes) (written : writeMsg codec msg = .ok frame)
    (short : frame.length < 2 ^ 32 + 4) : Frames codec (pending ++ [msg]) (bytes ++ frame) := by
  induction frames with
  | nil =>
      have alone := Frames.cons written short .nil
      rw [List.append_nil] at alone
      exact alone
  | cons first small _ ih =>
      rw [List.append_assoc]
      exact .cons first small ih

theorem Frames.empty {codec : Codec Msg} {pending : List Msg} (frames : Frames codec pending []) :
    pending = [] := by
  generalize whole : ([] : Bytes) = bytes at frames
  cases frames with
  | nil => rfl
  | cons written _ _ =>
      obtain ⟨_, _, _, _, _, rfl⟩ := writeMsg_eq written
      simp at whole

/-- The first message of a stream, in parts. -/
theorem Frames.parts {codec : Codec Msg} {pending : List Msg} {bytes : Bytes}
    (frames : Frames codec pending bytes) (some_ : bytes ≠ []) :
    ∃ msg later raw payload flags rest, pending = msg :: later ∧ codec.encode msg = .ok raw ∧
      pack codec raw = .ok (payload, flags) ∧ 1 + payload.length < 2 ^ 32 ∧
        bytes = littleEndian 4 (1 + payload.length) ++ (flags :: (payload ++ rest)) ∧
          Frames codec later rest := by
  cases frames with
  | nil => exact absurd rfl some_
  | cons written short later =>
      obtain ⟨raw, payload, flags, encoded, packed, rfl⟩ := writeMsg_eq written
      have small : 1 + payload.length < 2 ^ 32 := by
        simp only [List.length_append, Lib.length_littleEndian, List.length_singleton] at short
        omega
      refine ⟨_, _, raw, payload, flags, _, rfl, encoded, packed, small, ?_, later⟩
      rw [Nat.mod_eq_of_lt small]
      simp only [List.append_assoc, List.cons_append, List.nil_append]

/-! ### The reader -/

namespace Reader

/-- What the reader has taken of the frame it is in. -/
def held : Reader → Bytes
  | .length got => got
  | .flags total => littleEndian 4 total
  | .payload total bits got => littleEndian 4 total ++ (bits :: got)
  | .stopped _ => []

def WellFormed : Reader → Prop
  | .length got => got.length < 4
  | .flags total => 1 ≤ total ∧ total ≤ maxMessageSize
  | .payload total _ got => 1 ≤ total ∧ total ≤ maxMessageSize ∧ got.length ≤ total - 1
  | .stopped _ => True

def Stopped : Reader → Prop
  | .stopped _ => True
  | _ => False

/-- The stream from the frame on in which the reader is. -/
def Carries (codec : Codec Msg) (reader : Reader) (pending : List Msg) (rest : Bytes) : Prop :=
  reader.WellFormed ∧ Frames codec pending (reader.held ++ rest)

end Reader

theorem pack_flags {codec : Codec Msg} {raw payload : Bytes} {flags : UInt8}
    (packed : pack codec raw = .ok (payload, flags)) :
    (flags = 0 ∧ payload = raw) ∨ (flags = flagZstd ∧ codec.encodeAll raw = .ok payload) := by
  unfold pack at packed
  split at packed
  next =>
      split at packed
      next => cases packed
      next compressed =>
          split at packed
          next =>
              cases packed
              exact Or.inr ⟨rfl, compressed⟩
          next =>
              cases packed
              exact Or.inl ⟨rfl, rfl⟩
  next =>
      cases packed
      exact Or.inl ⟨rfl, rfl⟩

/-- A payload that was written gives the image of its message, unless it is too large. -/
theorem unpack_packed {codec : Codec Msg} (lawful : codec.Lawful image) {msg : Msg} {raw payload : Bytes}
    {flags : UInt8} (encoded : codec.encode msg = .ok raw) (packed : pack codec raw = .ok (payload, flags)) :
    unpack codec flags payload = .ok (image msg) ∨
      (flags = flagZstd ∧ maxMessageSize < raw.length ∧ ∃ error, unpack codec flags payload = .error error) := by
  obtain ⟨rfl, rfl⟩ | ⟨rfl, compressed⟩ := pack_flags packed
  · refine Or.inl ?_
    simp [unpack, inflate, lawful.message encoded]
  · have back := lawful.compressed compressed
    have set_ : flagZstd &&& flagZstd ≠ 0 := by decide
    unfold unpack inflate
    rw [if_pos set_, back]
    by_cases large : maxMessageSize < raw.length
    · refine Or.inr ⟨rfl, large, ?_⟩
      simp only [if_pos large]
      exact ⟨_, rfl⟩
    · refine Or.inl ?_
      simp [large, lawful.message encoded]

/-- What comes of some more bytes: the reader is further in the frame, the frame was the last byte
short of its message, or the frame is refused. -/
inductive Taken (codec : Codec Msg) (image : Msg → Msg) (pending : List Msg) (rest : Bytes) :
    Reader × Option Msg → Prop where
  | more {next : Reader} (running : ¬next.Stopped) (carries : next.Carries codec pending rest) :
      Taken codec image pending rest (next, none)
  | message {msg : Msg} {later : List Msg} (first : pending = msg :: later)
      (carries : (Reader.length []).Carries codec later rest) :
      Taken codec image pending rest (.length [], some (image msg))
  | refused {msg : Msg} {later : List Msg} {error : QuicTransportError} (first : pending = msg :: later)
      (large : ¬Fits codec msg) : Taken codec image pending rest (.stopped (some error), none)

theorem Fits.payload {codec : Codec Msg} {msg : Msg} {raw payload : Bytes} {flags : UInt8}
    (fits : Fits codec msg) (encoded : codec.encode msg = .ok raw)
    (packed : pack codec raw = .ok (payload, flags)) :
    1 + payload.length ≤ maxMessageSize ∧ (flags = flagZstd → raw.length ≤ maxMessageSize) := by
  obtain ⟨raw', payload', flags', encoded', packed', small⟩ := fits
  rw [encoded] at encoded'
  cases encoded'
  rw [packed] at packed'
  cases packed'
  exact small

theorem take_length {codec : Codec Msg} {got bytes rest : Bytes} {pending : List Msg}
    (carries : (Reader.length got).Carries codec pending (bytes ++ rest))
    (few : bytes.length ≤ (Reader.length got).need) :
    Taken codec image pending rest ((Reader.length got).take codec bytes) := by
  obtain ⟨short, frames⟩ := carries
  simp only [Reader.WellFormed, Reader.held, Reader.need, ← List.append_assoc] at short frames few
  simp only [Reader.take]
  split
  next less => exact .more id ⟨less, frames⟩
  next full =>
      simp only [List.length_append, Nat.not_lt] at full
      obtain ⟨msg, later, raw, payload, flags, after, rfl, encoded, packed, small, whole, -⟩ :=
        frames.parts (List.ne_nil_of_length_pos (by simp only [List.length_append]; omega))
      obtain ⟨prefix_, -⟩ := List.append_inj whole (by
        rw [Lib.length_littleEndian, List.length_append]
        omega)
      have total : ofLittleEndian (got ++ bytes) = 1 + payload.length := by
        rw [prefix_, Lib.ofLittleEndian_littleEndian small]
      rw [total]
      split
      next range =>
          refine .more id ⟨range, ?_⟩
          rw [prefix_] at frames
          exact frames
      next outside => exact .refused rfl fun fits => outside ⟨by omega, (fits.payload encoded packed).1⟩

theorem take_flags {codec : Codec Msg} {total : Nat} {bytes rest : Bytes} {pending : List Msg}
    (carries : (Reader.flags total).Carries codec pending (bytes ++ rest))
    (few : bytes.length ≤ (Reader.flags total).need) :
    Taken codec image pending rest ((Reader.flags total).take codec bytes) := by
  obtain ⟨⟨positive, limited⟩, frames⟩ := carries
  cases bytes with
  | nil => exact .more id ⟨⟨positive, limited⟩, frames⟩
  | cons flags more =>
      have alone : more = [] := by
        simp only [Reader.need, List.length_cons] at few
        exact List.eq_nil_of_length_eq_zero (by omega)
      subst alone
      refine .more id ⟨⟨positive, limited, Nat.zero_le _⟩, ?_⟩
      simpa only [Reader.held, List.append_assoc, List.cons_append, List.nil_append] using frames

theorem take_payload {codec : Codec Msg} (lawful : codec.Lawful image) {total : Nat} {flags : UInt8}
    {got bytes rest : Bytes} {pending : List Msg}
    (carries : (Reader.payload total flags got).Carries codec pending (bytes ++ rest))
    (few : bytes.length ≤ (Reader.payload total flags got).need) :
    Taken codec image pending rest ((Reader.payload total flags got).take codec bytes) := by
  obtain ⟨⟨positive, limited, inside⟩, frames⟩ := carries
  simp only [Reader.held, Reader.need] at frames few
  have whole : littleEndian 4 total ++ flags :: got ++ (bytes ++ rest) =
      littleEndian 4 total ++ (flags :: ((got ++ bytes) ++ rest)) := by
    simp only [List.append_assoc, List.cons_append]
  rw [whole] at frames
  simp only [Reader.take]
  split
  next less =>
      refine .more id ⟨⟨positive, limited, Nat.le_of_lt less⟩, ?_⟩
      simpa only [Reader.held, List.append_assoc, List.cons_append] using frames
  next full =>
      obtain ⟨msg, later, raw, payload, bits, after, rfl, encoded, packed, small, parts, frames⟩ :=
        frames.parts (by simp)
      obtain ⟨prefix_, same⟩ := List.append_inj parts (by
        rw [Lib.length_littleEndian, Lib.length_littleEndian])
      obtain ⟨rfl, bodies⟩ := List.cons.inj same
      have sizes : total = 1 + payload.length := by
        have back := congrArg ofLittleEndian prefix_
        have inside : total < 256 ^ 4 := by
          simp only [maxMessageSize] at limited
          omega
        rwa [Lib.ofLittleEndian_littleEndian inside, Lib.ofLittleEndian_littleEndian small] at back
      obtain ⟨rfl, rfl⟩ := List.append_inj bodies (by
        simp only [List.length_append] at full ⊢
        omega)
      obtain read | ⟨rfl, large, error, refused⟩ := unpack_packed lawful encoded packed
      · rw [read]
        exact .message rfl ⟨Nat.zero_lt_succ _, frames⟩
      · rw [refused]
        refine .refused rfl fun fits => ?_
        have := (fits.payload encoded packed).2 rfl
        omega

/-- However the bytes of a stream arrive, its reader gives the images of its messages in their order,
and stops only at one that is too large. -/
theorem take_spec {codec : Codec Msg} (lawful : codec.Lawful image) {reader : Reader} {bytes rest : Bytes}
    {pending : List Msg} (running : ¬reader.Stopped) (carries : reader.Carries codec pending (bytes ++ rest))
    (few : bytes.length ≤ reader.need) : Taken codec image pending rest (reader.take codec bytes) := by
  cases reader with
  | length got => exact take_length carries few
  | flags total => exact take_flags carries few
  | payload total flags got => exact take_payload lawful carries few
  | stopped error => exact absurd trivial running

end Terrasync.Transport.Quic
