import Mathlib.Data.List.Forall2
import Mathlib.Data.List.Induction
import Terrasync.App.FileCommit
import Terrasync.SyncDelta.RoundTrip

/-! The chunks that a delta transfer hands to its writer. Adjacent basis references are
read together; the stream is still the plain reconstruction of the tokens. -/

set_option autoImplicit false

namespace Terrasync.App

open SyncDelta (Bytes DeltaToken Reconstructor ReconstructStep reconstruct tokenBytes)
open Transport

/-- The longest basis range that is read at once when references are merged. -/
def mergeLimit : Nat := 2 * 1024 * 1024

def basisRange (content : Bytes) (offset length : Nat) : Bytes := (content.drop offset).take length

theorem length_basisRange {content : Bytes} {offset length : Nat}
    (inside : offset + length ≤ content.length) : (basisRange content offset length).length = length := by
  rw [basisRange, List.length_take, List.length_drop]
  omega

theorem basisRange_append (content : Bytes) (offset first second : Nat) :
    basisRange content offset (first + second) =
      basisRange content offset first ++ basisRange content (offset + first) second := by
  simp only [basisRange, List.take_add, List.drop_drop]

/-- Every read that succeeds returns exactly the range of the basis, and the writer takes
every chunk. -/
structure ReadsBasis (content : Bytes) (answers : DiskAnswers) : Prop where
  exact : ∀ offset length data, answers.readBasis offset length = .ok data →
    offset + length ≤ content.length ∧ data = basisRange content offset length
  takesBasis : answers.takesBasis = true
  takesData : answers.takesData = true

/-- The bytes a list of chunks writes, in order. -/
def written (chunks : List StreamChunk) : Bytes := chunks.flatMap StreamChunk.data

/-- Each chunk starts where the one before it ends. -/
def Contiguous : Nat → List StreamChunk → Prop
  | _, [] => True
  | position, chunk :: rest =>
      chunk.offset = position ∧ Contiguous (position + chunk.data.length) rest

theorem written_concat (chunks : List StreamChunk) (chunk : StreamChunk) :
    written (chunks ++ [chunk]) = written chunks ++ chunk.data := by
  simp only [written, List.flatMap_append, List.flatMap_singleton]

theorem Contiguous.concat {chunk : StreamChunk} {chunks : List StreamChunk} {position : Nat}
    (contiguous : Contiguous position chunks)
    (next : chunk.offset = position + (written chunks).length) :
    Contiguous position (chunks ++ [chunk]) := by
  induction chunks generalizing position with
  | nil => exact ⟨next, trivial⟩
  | cons first rest ih =>
      refine ⟨contiguous.1, ih contiguous.2 ?_⟩
      rw [next, written, written, List.flatMap_cons, List.length_append, Nat.add_assoc]

/-- The tokens whose adjacent basis ranges are read as one. -/
inductive Merged (reconstructor : Reconstructor) : List DeltaToken → Nat → Nat → Prop where
  | single {token : DeltaToken} {offset : Nat} {len : UInt32}
      (needs : reconstructor.push token = .needBasis offset len) :
      Merged reconstructor [token] offset len.toNat
  | more {tokens : List DeltaToken} {token : DeltaToken} {start length : Nat} {len : UInt32}
      (merged : Merged reconstructor tokens start length)
      (needs : reconstructor.push token = .needBasis (start + length) len)
      (short : length + len.toNat ≤ mergeLimit) :
      Merged reconstructor (tokens ++ [token]) start (length + len.toNat)

theorem Merged.bounded {reconstructor : Reconstructor} {tokens : List DeltaToken} {start length : Nat}
    (merged : Merged reconstructor tokens start length) :
    length ≤ mergeLimit ∨ ∃ token, tokens = [token] := by
  cases merged with
  | single => exact .inr ⟨_, rfl⟩
  | more _ _ short => exact .inl short

/-- What a token stands for in the basis that took part in the matching, the first
`basisSize` bytes of the content. -/
def Reconstructor.bytesOf (reconstructor : Reconstructor) (content : Bytes) (token : DeltaToken) : Bytes :=
  tokenBytes (content.take reconstructor.basisSize) reconstructor.blockSize token

theorem bytesOf_ready {reconstructor : Reconstructor} {content data : Bytes} {token : DeltaToken}
    (ready : reconstructor.push token = .ready data) :
    Reconstructor.bytesOf reconstructor content token = data := by
  cases token with
  | data bytes =>
      cases ready
      rfl
  | matchBlock blockIndex =>
      simp only [Reconstructor.push] at ready
      split at ready
      · next beyond =>
          cases ready
          have outside : (content.take reconstructor.basisSize).length ≤
              blockIndex.toNat * reconstructor.blockSize.toNat :=
            le_trans (List.length_take_le _ _) beyond
          simp only [Reconstructor.bytesOf, tokenBytes, Reconstructor.push, if_pos outside,
            ReconstructStep.resolve]
      · cases ready

/-- A block reference inside the basis asks for the block, cut at the end of the basis. -/
theorem push_needBasis {reconstructor : Reconstructor} {token : DeltaToken} {offset : Nat} {len : UInt32}
    (needs : reconstructor.push token = .needBasis offset len) :
    ∃ blockIndex, token = .matchBlock blockIndex ∧
      offset = blockIndex.toNat * reconstructor.blockSize.toNat ∧ offset < reconstructor.basisSize ∧
      len.toNat = min reconstructor.blockSize.toNat (reconstructor.basisSize - offset) := by
  cases token with
  | data bytes => cases needs
  | matchBlock blockIndex =>
      simp only [Reconstructor.push] at needs
      split at needs
      · cases needs
      · next within =>
          cases needs
          refine ⟨blockIndex, rfl, rfl, Nat.not_le.mp within, ?_⟩
          have sized := reconstructor.blockSize.toNat_lt
          rw [UInt32.toNat_ofNat_of_lt' (by simp only [UInt32.size]; omega)]
          omega

theorem bytesOf_needBasis {reconstructor : Reconstructor} {content : Bytes} {token : DeltaToken}
    {offset : Nat} {len : UInt32} (needs : reconstructor.push token = .needBasis offset len)
    (inside : offset + len.toNat ≤ content.length) :
    Reconstructor.bytesOf reconstructor content token = basisRange content offset len.toNat := by
  obtain ⟨blockIndex, rfl, rfl, within, length⟩ := push_needBasis needs
  simp only [Reconstructor.bytesOf, tokenBytes]
  cases step : Reconstructor.push ⟨reconstructor.blockSize, (content.take reconstructor.basisSize).length⟩
      (.matchBlock blockIndex) with
  | ready data =>
      simp only [Reconstructor.push] at step
      split at step
      · next beyond =>
          cases step
          rw [List.length_take] at beyond
          have empty : len.toNat = 0 := by omega
          simp only [ReconstructStep.resolve, basisRange, empty, List.take_zero]
      · cases step
  | needBasis start short =>
      obtain ⟨other, block, rfl, before, cut⟩ := push_needBasis step
      cases block
      simp only [List.length_take] at cut before
      simp only [ReconstructStep.resolve, basisRange, List.drop_take, List.take_take]
      congr 1
      omega

theorem Merged.bytes {reconstructor : Reconstructor} {content : Bytes} {tokens : List DeltaToken}
    {start length : Nat} (merged : Merged reconstructor tokens start length)
    (inside : start + length ≤ content.length) :
    tokens.flatMap (Reconstructor.bytesOf reconstructor content) = basisRange content start length := by
  induction merged with
  | single needs =>
      rw [List.flatMap_singleton]
      exact bytesOf_needBasis needs inside
  | more _ needs _ ih =>
      rw [List.flatMap_append, List.flatMap_singleton, ih (by omega),
        bytesOf_needBasis needs (by omega), basisRange_append]

/-- Where a chunk of the writer comes from: one literal, or a run of block references. -/
inductive WrittenFor (reconstructor : Reconstructor) (content : Bytes) :
    StreamChunk → List DeltaToken → Prop where
  | literal {offset : Nat} {data : Bytes} {token : DeltaToken} (ready : reconstructor.push token = .ready data) :
      WrittenFor reconstructor content ⟨offset, data, false⟩ [token]
  | basis {offset start length : Nat} {tokens : List DeltaToken}
      (merged : Merged reconstructor tokens start length) (inside : start + length ≤ content.length) :
      WrittenFor reconstructor content
        ⟨offset, basisRange content start length, decide (start = offset)⟩ tokens

/-- The chunks of a writer stand for tokens, one after the other. -/
structure Streams (reconstructor : Reconstructor) (content : Bytes) (tokens : List DeltaToken)
    (sent : List StreamChunk) : Prop where
  contiguous : Contiguous 0 sent
  origin : ∃ runs, runs.flatten = tokens ∧ List.Forall₂ (WrittenFor reconstructor content) sent runs

theorem Streams.concat {reconstructor : Reconstructor} {content : Bytes} {tokens run : List DeltaToken}
    {sent : List StreamChunk} {chunk : StreamChunk} (streams : Streams reconstructor content tokens sent)
    (next : chunk.offset = (written sent).length) (origin : WrittenFor reconstructor content chunk run) :
    Streams reconstructor content (tokens ++ run) (sent ++ [chunk]) where
  contiguous := streams.contiguous.concat (next.trans (Nat.zero_add _).symm)
  origin := by
    obtain ⟨runs, rfl, written⟩ := streams.origin
    refine ⟨runs ++ [run], by rw [List.flatten_append, List.flatten_singleton], ?_⟩
    exact List.rel_append written (.cons origin .nil)

theorem WrittenFor.bytes {reconstructor : Reconstructor} {content : Bytes} {chunk : StreamChunk}
    {tokens : List DeltaToken} (origin : WrittenFor reconstructor content chunk tokens) :
    chunk.data = tokens.flatMap (Reconstructor.bytesOf reconstructor content) := by
  cases origin with
  | literal ready => rw [List.flatMap_singleton, bytesOf_ready ready]
  | basis merged inside => exact (merged.bytes inside).symm

theorem Streams.bytes {reconstructor : Reconstructor} {content : Bytes} {tokens : List DeltaToken}
    {sent : List StreamChunk} (streams : Streams reconstructor content tokens sent) :
    written sent = tokens.flatMap (Reconstructor.bytesOf reconstructor content) := by
  obtain ⟨runs, rfl, origins⟩ := streams.origin
  clear streams
  induction origins with
  | nil => rfl
  | cons origin _ ih =>
      rw [List.flatten_cons, List.flatMap_append, ← origin.bytes, ← ih]
      rfl

/-- The stream a delta transfer hands to its writer. -/
structure WritesDelta (content : Bytes) (reconstructor : Reconstructor) (tokens : List DeltaToken)
    (sent : List StreamChunk) : Prop where
  contiguous : Contiguous 0 sent
  data : written sent =
    reconstruct (content.take reconstructor.basisSize) tokens reconstructor.blockSize
  /-- Only what a single token stands for may be longer than a merged range. -/
  limited : ∀ chunk ∈ sent, mergeLimit < chunk.data.length →
    ∃ token ∈ tokens, WrittenFor reconstructor content chunk [token]
  unchanged : ∀ chunk ∈ sent, chunk.unchangedBasis = true →
    chunk.data = basisRange content chunk.offset chunk.data.length

theorem mem_origin {reconstructor : Reconstructor} {content : Bytes} {sent : List StreamChunk} {runs : List (List DeltaToken)} {chunk : StreamChunk}
    (origins : List.Forall₂ (WrittenFor reconstructor content) sent runs) (member : chunk ∈ sent) :
    ∃ run ∈ runs, WrittenFor reconstructor content chunk run := by
  induction origins with
  | nil => exact absurd member List.not_mem_nil
  | cons origin _ ih =>
      obtain rfl | later := List.mem_cons.mp member
      · exact ⟨_, List.mem_cons_self, origin⟩
      · obtain ⟨run, listed, written⟩ := ih later
        exact ⟨run, List.mem_cons_of_mem _ listed, written⟩

theorem Streams.writesDelta {reconstructor : Reconstructor} {content : Bytes} {tokens : List DeltaToken}
    {sent : List StreamChunk} (streams : Streams reconstructor content tokens sent) :
    WritesDelta content reconstructor tokens sent where
  contiguous := streams.contiguous
  data := by
    rw [streams.bytes, SyncDelta.reconstruct_eq_flatMap]
    rfl
  limited := by
    intro chunk member long
    obtain ⟨runs, rfl, origins⟩ := streams.origin
    obtain ⟨run, listed, origin⟩ := mem_origin origins member
    have single : ∃ token, run = [token] := by
      cases origin with
      | literal => exact ⟨_, rfl⟩
      | basis merged inside =>
          rw [length_basisRange inside] at long
          exact merged.bounded.resolve_left (Nat.not_le.mpr long)
    obtain ⟨token, rfl⟩ := single
    exact ⟨token, List.mem_flatten.mpr ⟨_, listed, List.mem_cons_self⟩, origin⟩
  unchanged := by
    intro chunk member flagged
    obtain ⟨runs, rfl, origins⟩ := streams.origin
    obtain ⟨run, _, origin⟩ := mem_origin origins member
    cases origin with
    | literal => cases flagged
    | basis merged inside =>
        rw [length_basisRange inside, of_decide_eq_true flagged]

/-- The range that is not read yet stands for the last tokens and ends at the write
position. -/
def PendingRun (ctx : DeltaCtx) (position : Nat) (tokens : List DeltaToken) : Prop :=
  match ctx.pendingBasis with
  | none => tokens = [] ∧ ctx.writePos = position
  | some (start, length, writeOffset) =>
      Merged ctx.reconstructor tokens start length ∧ writeOffset = position ∧
        ctx.writePos = position + length

/-- The active file after a list of tokens: what was sent, and what waits to be read. -/
structure Receives (reconstructor : Reconstructor) (content : Bytes) (tokens : List DeltaToken)
    (active : ActiveFile) (ctx : DeltaCtx) : Prop where
  mode : active.mode = .delta ctx
  configured : ctx.reconstructor = reconstructor
  stream : ∃ sent pending, tokens = sent ++ pending ∧ Streams reconstructor content sent active.sent ∧
    PendingRun ctx (written active.sent).length pending

namespace FileCommitState

variable {content : Bytes} {answers : DiskAnswers} {active : ActiveFile} {ctx : DeltaCtx}
  {reconstructor : Reconstructor} {tokens : List DeltaToken}

/-- A flush that succeeds leaves nothing to read. -/
theorem flushBasis_receives {flushed : ActiveFile} (reads : ReadsBasis content answers)
    (receives : Receives reconstructor content tokens active ctx)
    (done : flushBasis answers active = .ok flushed) :
    flushed.path = active.path ∧ flushed.mode = .delta { ctx with pendingBasis := none } ∧
      Streams reconstructor content tokens flushed.sent ∧
      ctx.writePos = (written flushed.sent).length := by
  obtain ⟨mode, configured, sent, pending, rfl, streams, run⟩ := receives
  simp only [flushBasis, mode] at done
  cases range : ctx.pendingBasis with
  | none =>
      simp only [range] at done
      cases done
      simp only [PendingRun, range] at run
      obtain ⟨rfl, position⟩ := run
      refine ⟨rfl, ?_, ?_, position⟩
      · rw [mode, ← range]
      · rw [List.append_nil]
        exact streams
  | some range' =>
      obtain ⟨start, length, writeOffset⟩ := range'
      simp only [PendingRun, range] at run
      obtain ⟨merged, rfl, position⟩ := run
      simp only [range] at done
      split at done
      · cases done
      · next data read =>
          obtain ⟨inside, rfl⟩ := reads.exact start length data read
          rw [if_pos reads.takesBasis] at done
          cases done
          refine ⟨rfl, rfl, streams.concat rfl ?_, ?_⟩
          · rw [← configured]
            exact .basis merged inside
          · rw [written_concat, List.length_append, length_basisRange inside, position]

theorem coalesced_receives {grown : DeltaCtx} {token : DeltaToken}
    (receives : Receives reconstructor content tokens active ctx)
    (grows : coalesced ctx (ctx.reconstructor.push token) = some grown) :
    Receives reconstructor content (tokens ++ [token]) { active with mode := .delta grown } grown := by
  obtain ⟨mode, configured, sent, pending, rfl, streams, run⟩ := receives
  cases step : ctx.reconstructor.push token with
  | ready data =>
      rw [step] at grows
      cases grows
  | needBasis offset len =>
      simp only [step, coalesced] at grows
      split at grows
      · next start length writeOffset range =>
          split at grows
          · next adjacent =>
              cases grows
              simp only [PendingRun, range] at run
              obtain ⟨merged, position, ends⟩ := run
              refine ⟨rfl, configured, sent, pending ++ [token], List.append_assoc _ _ _, streams, ?_⟩
              refine ⟨.more merged ?_ adjacent.2, position, ?_⟩
              · rw [step, adjacent.1]
              · rw [ends, Nat.add_assoc]
          · cases grows
      · cases grows

theorem applyStep_receives {token : DeltaToken} (reads : ReadsBasis content answers)
    (configured : ctx.reconstructor = reconstructor) (empty : ctx.pendingBasis = none)
    (streams : Streams reconstructor content tokens active.sent)
    (position : ctx.writePos = (written active.sent).length) :
    ∃ next, Receives reconstructor content (tokens ++ [token])
      (applyStep answers active ctx (ctx.reconstructor.push token)) next := by
  cases step : ctx.reconstructor.push token with
  | ready data =>
      refine ⟨_, rfl, configured, tokens ++ [token], [], (List.append_nil _).symm, ?_, ?_⟩
      · simp only [applyStep, if_pos reads.takesData]
        refine streams.concat position ?_
        rw [configured] at step
        exact .literal step
      · simp only [PendingRun, applyStep, empty, if_pos reads.takesData, written_concat,
          List.length_append, position, and_self]
  | needBasis offset len =>
      refine ⟨_, rfl, configured, tokens, [token], rfl, streams, ?_⟩
      exact ⟨.single step, position, congrArg (· + len.toNat) position⟩

theorem pushDelta_receives {entry : ObservedEntry} {token : DeltaToken} {next : ActiveFile}
    (reads : ReadsBasis content answers) (same : active.path = entry.path)
    (receives : Receives reconstructor content tokens active ctx)
    (pushed : ((FileCommitState.deltaActive active).pushDelta answers entry token).state =
      .deltaActive next) :
    next.path = active.path ∧ ∃ after, Receives reconstructor content (tokens ++ [token]) next after := by
  simp only [pushDelta, if_neg (not_not_intro same), receives.mode] at pushed
  split at pushed
  · next grown grows =>
      cases pushed
      exact ⟨rfl, grown, coalesced_receives receives grows⟩
  · split at pushed
    · cases pushed
    · next flushed done =>
        obtain ⟨path, mode, streams, position⟩ := flushBasis_receives reads receives done
        simp only [mode] at pushed
        cases pushed
        refine ⟨?_, ?_⟩
        · rw [← path]
          cases ctx.reconstructor.push token <;> rfl
        · exact @applyStep_receives _ _ _ { ctx with pendingBasis := none } _ _ token reads
            receives.configured rfl streams position

/-- A token leaves a delta active only where one was. -/
theorem deltaActive_of_pushDelta {state : FileCommitState} {entry : ObservedEntry} {token : DeltaToken}
    {next : ActiveFile} (pushed : (state.pushDelta answers entry token).state = .deltaActive next) :
    ∃ active, state = .deltaActive active := by
  cases state with
  | deltaActive active => exact ⟨active, rfl⟩
  | idle | fullActive | committing | failed | completed => cases pushed

/-- The tokens of a transfer, each with what the engine answers while it is pushed. -/
def pushTokens (state : FileCommitState) (entry : ObservedEntry)
    (steps : List (DiskAnswers × DeltaToken)) : FileCommitState :=
  steps.foldl (fun state step => (state.pushDelta step.1 entry step.2).state) state

theorem pushTokens_receives {ndx : Ndx} {item : ObservedItem} {blockSize : UInt32} {basisSize : Nat}
    {steps : List (DiskAnswers × DeltaToken)} (reads : ∀ step ∈ steps, ReadsBasis content step.1)
    (pushed : (opened ndx item basisSize (some blockSize)).pushTokens item.entry steps =
      .deltaActive active) :
    active.path = item.entry.path ∧
      ∃ ctx, Receives ⟨blockSize, basisSize⟩ content (steps.map Prod.snd) active ctx := by
  induction steps using List.reverseRecOn generalizing active with
  | nil =>
      cases pushed
      refine ⟨rfl, _, rfl, rfl, [], [], rfl, ⟨trivial, [], rfl, .nil⟩, rfl, rfl⟩
  | append_singleton steps step ih =>
      simp only [pushTokens, List.foldl_append, List.foldl_cons, List.foldl_nil] at pushed
      obtain ⟨before, active⟩ := deltaActive_of_pushDelta pushed
      obtain ⟨path, ctx, receives⟩ :=
        ih (fun other member => reads other (List.mem_append_left _ member)) active
      rw [active] at pushed
      obtain ⟨kept, after⟩ := pushDelta_receives
        (reads step (List.mem_append_right _ List.mem_cons_self)) path receives pushed
      refine ⟨kept.trans path, ?_⟩
      rw [List.map_append]
      exact after

/-- When every read and send of a delta transfer succeeds, up to the last flush of its
commit, the chunks sent are the plain reconstruction from the basis. -/
theorem delta_writes_reconstruction {ndx : Ndx} {item : ObservedItem} {blockSize : UInt32}
    {basisSize : Nat} {steps : List (DiskAnswers × DeltaToken)} {flushed : ActiveFile}
    (reads : ∀ step ∈ steps, ReadsBasis content step.1)
    (pushed : (opened ndx item basisSize (some blockSize)).pushTokens item.entry steps =
      .deltaActive active)
    (readsLast : ReadsBasis content answers) (done : flushBasis answers active = .ok flushed) :
    WritesDelta content ⟨blockSize, basisSize⟩ (steps.map Prod.snd) flushed.sent := by
  obtain ⟨_, ctx, receives⟩ := pushTokens_receives reads pushed
  obtain ⟨_, _, streams, _⟩ := flushBasis_receives readsLast receives done
  exact streams.writesDelta

/-- An engine that reads ranges of `content` and takes every chunk. -/
def readingAnswers (content : Bytes) : DiskAnswers where
  createDir := none
  createSymlink := none
  writeDeleteMarker := none
  plan := none
  observe := .ok content.length
  prepare := none
  readBasis := fun offset length =>
    if offset + length ≤ content.length then .ok (basisRange content offset length)
    else .error "range"
  takesBasis := true
  takesData := true
  writeError := none
  receivedSize := 0
  inputEnded := true
  receivedHash := []
  publish := none

theorem readingAnswers_reads (content : Bytes) : ReadsBasis content (readingAnswers content) where
  exact := by
    intro offset length data read
    simp only [readingAnswers] at read
    split at read
    · next inside =>
        cases read
        exact ⟨inside, rfl⟩
    · cases read
  takesBasis := rfl
  takesData := rfl

/-- Two adjacent blocks, a literal, the short last block, a block past the end and the first
block again. -/
def mixedTokens : List DeltaToken :=
  [.matchBlock 0, .matchBlock 1, .data [9], .matchBlock 2, .matchBlock 7, .matchBlock 0]

theorem delta_writes_reconstruction_mixed :
    WritesDelta [1, 2, 3, 4, 5] ⟨2, 5⟩ mixedTokens
      [⟨0, [1, 2, 3, 4], true⟩, ⟨4, [9], false⟩, ⟨5, [5], false⟩, ⟨6, [], false⟩, ⟨6, [1, 2], false⟩] :=
  @delta_writes_reconstruction [1, 2, 3, 4, 5] (readingAnswers [1, 2, 3, 4, 5]) _ 1
    (.ofEntry (.new ['f'] .file (some 8) none .local none)) 2 5
    (mixedTokens.map fun token => (readingAnswers [1, 2, 3, 4, 5], token)) _
    (fun step member => by
      obtain ⟨token, _, rfl⟩ := List.mem_map.mp member
      exact readingAnswers_reads _)
    rfl (readingAnswers_reads _) rfl

end FileCommitState

end Terrasync.App
