import Mathlib.Algebra.GroupWithZero.Nat
import Mathlib.Logic.Function.Basic
import Terrasync.SyncDelta.Signature

/-! The sliding-window matcher of `matcher.rs`. Source bytes arrive in chunks; a
window that equals a basis block becomes a block reference, everything else is
accumulated as literal data. -/

set_option autoImplicit false

namespace Terrasync.SyncDelta

/-- Rolling checksum to the indexed signatures that carry it, in signature order. -/
abbrev SigTable := UInt32 → Option (List (UInt32 × BlockSignature))

/-- `table.entry(sig.rolling).or_default().push((idx as u32, sig))`. -/
def SigTable.insert (table : SigTable) (entry : BlockSignature × Nat) : SigTable :=
  Function.update table entry.1.rolling
    (some ((table entry.1.rolling).getD [] ++ [(UInt32.ofNat entry.2, entry.1)]))

def buildSigTable (signatures : List BlockSignature) : SigTable :=
  signatures.zipIdx.foldl SigTable.insert fun _ => none

/-- Literal bytes that force a `Data` token, `1024 * 1024`. -/
def literalLimit : Nat := 1024 * 1024

structure DeltaMatcher where
  sigTable : SigTable
  bs : Nat
  signatures : List BlockSignature
  /-- Bytes already dropped from the front of `carry`. -/
  consumed : Nat
  carry : Bytes
  pos : Nat
  rc : RollingChecksum
  windowInit : Bool
  literalBuf : Bytes

namespace DeltaMatcher

def new (signatures : List BlockSignature) (blockSize : UInt32) : DeltaMatcher where
  sigTable := buildSigTable signatures
  bs := blockSize.toNat
  signatures := signatures
  consumed := 0
  carry := []
  pos := 0
  rc := .new
  windowInit := false
  literalBuf := []

/-- `carry[pos..pos + bs]`. -/
def window (matcher : DeltaMatcher) : Bytes :=
  (matcher.carry.drop matcher.pos).take matcher.bs

/-- The rolling checksum of the current window, recomputed when none is at hand. -/
def initWindow (matcher : DeltaMatcher) : DeltaMatcher :=
  if matcher.windowInit then matcher
  else { matcher with rc := .init matcher.window, windowInit := true }

/-- The signature at the same position of the basis, if it matches. -/
def preferred (signatures : List BlockSignature) (bs position : Nat) (rolling : UInt32)
    (strong : StrongHash) : Option UInt32 :=
  if position % bs = 0 ∧ position / bs < 2 ^ 32 then
    match signatures[position / bs]? with
    | some sig =>
        if sig.rolling = rolling ∧ sig.strong = strong then some (UInt32.ofNat (position / bs)) else none
    | none => none
  else none

variable (blake3Truncated : Bytes → StrongHash)

/-- The block chosen for a window: the one at the same position before the first
candidate with the strong hash of the window. -/
def selected (matcher : DeltaMatcher) : Option UInt32 :=
  match matcher.sigTable matcher.rc.digest with
  | none => none
  | some candidates =>
      let strong := blake3Truncated matcher.window
      (preferred matcher.signatures matcher.bs (matcher.consumed + matcher.pos) matcher.rc.digest
        strong).or ((candidates.find? fun candidate => candidate.2.strong = strong).map Prod.fst)

/-- The pending literal as a token, or nothing. -/
def flushLiteral (literal : Bytes) : List DeltaToken :=
  if literal.isEmpty then [] else [.data literal]

/-- The branch of the loop of `process` that found a block. -/
def stepMatch (matcher : DeltaMatcher) (blockIndex : UInt32) : DeltaMatcher × List DeltaToken :=
  ({ matcher with pos := matcher.pos + matcher.bs, windowInit := false, literalBuf := [] },
    flushLiteral matcher.literalBuf ++ [.matchBlock blockIndex])

/-- The literal after one more byte, and the token it completes at the limit. -/
def pushLiteral (literal : Bytes) (byte : UInt8) : Bytes × List DeltaToken :=
  if literalLimit ≤ (literal ++ [byte]).length then ([], [.data (literal ++ [byte])])
  else (literal ++ [byte], [])

/-- Slide the window by one byte if the next byte is available; otherwise drop
the checksum until more data arrives. -/
def slide (matcher : DeltaMatcher) : DeltaMatcher :=
  if matcher.pos + matcher.bs ≤ matcher.carry.length then
    { matcher with
      rc := matcher.rc.update (matcher.carry.getD (matcher.pos - 1) 0)
        (matcher.carry.getD (matcher.pos + matcher.bs - 1) 0) (UInt32.ofNat matcher.bs) }
  else { matcher with windowInit := false }

/-- The branch of the loop of `process` that found no block. -/
def stepLiteral (matcher : DeltaMatcher) : DeltaMatcher × List DeltaToken :=
  let pushed := pushLiteral matcher.literalBuf (matcher.carry.getD matcher.pos 0)
  (slide { matcher with literalBuf := pushed.1, pos := matcher.pos + 1 }, pushed.2)

/-- One iteration of the loop of `process`. -/
def step (matcher : DeltaMatcher) : DeltaMatcher × List DeltaToken :=
  let ready := matcher.initWindow
  match ready.selected blake3Truncated with
  | some blockIndex => ready.stepMatch blockIndex
  | none => ready.stepLiteral

@[simp] theorem initWindow_carry (matcher : DeltaMatcher) : matcher.initWindow.carry = matcher.carry := by
  unfold initWindow; split <;> rfl

@[simp] theorem initWindow_pos (matcher : DeltaMatcher) : matcher.initWindow.pos = matcher.pos := by
  unfold initWindow; split <;> rfl

@[simp] theorem initWindow_bs (matcher : DeltaMatcher) : matcher.initWindow.bs = matcher.bs := by
  unfold initWindow; split <;> rfl

@[simp] theorem slide_carry (matcher : DeltaMatcher) : matcher.slide.carry = matcher.carry := by
  unfold slide; split <;> rfl

@[simp] theorem slide_pos (matcher : DeltaMatcher) : matcher.slide.pos = matcher.pos := by
  unfold slide; split <;> rfl

theorem step_carry (matcher : DeltaMatcher) :
    (matcher.step blake3Truncated).1.carry = matcher.carry := by
  simp only [step]
  split <;> simp [stepMatch, stepLiteral]

theorem step_pos (matcher : DeltaMatcher) (positive : 0 < matcher.bs) :
    matcher.pos < (matcher.step blake3Truncated).1.pos := by
  simp only [step]
  split
  · simpa [stepMatch] using positive
  · simp [stepLiteral]

/-- `process`: iterate while a whole window is available. The source enters it
with a positive block size only. -/
def process (matcher : DeltaMatcher) : DeltaMatcher × List DeltaToken :=
  if _ready : 0 < matcher.bs ∧ matcher.pos + matcher.bs ≤ matcher.carry.length then
    let stepped := matcher.step blake3Truncated
    let rest := process stepped.1
    (rest.1, stepped.2 ++ rest.2)
  else (matcher, [])
termination_by matcher.carry.length - matcher.pos
decreasing_by
  have progress := matcher.step_pos blake3Truncated _ready.1
  rw [step_carry]
  omega

/-- Drop the processed prefix of `carry`. -/
def compact (matcher : DeltaMatcher) : DeltaMatcher :=
  if 0 < matcher.pos then
    { matcher with
      consumed := matcher.consumed + matcher.pos
      carry := matcher.carry.drop matcher.pos
      pos := 0 }
  else matcher

/-- `carry.extend_from_slice(bytes)`. -/
def extend (matcher : DeltaMatcher) (bytes : Bytes) : DeltaMatcher :=
  { matcher with carry := matcher.carry ++ bytes }

def push (matcher : DeltaMatcher) (bytes : Bytes) : DeltaMatcher × List DeltaToken :=
  if matcher.bs = 0 then ({ matcher with literalBuf := matcher.literalBuf ++ bytes }, [])
  else
    let processed := process blake3Truncated (matcher.extend bytes)
    (processed.1.compact, processed.2)

/-- The tokens of `finish`: what `process` still finds, then the rest as literal
data in slices of at most `literalLimit` bytes. -/
def finish (matcher : DeltaMatcher) : List DeltaToken :=
  let processed := if matcher.bs = 0 then (matcher, []) else matcher.process blake3Truncated
  let literal := processed.1.literalBuf ++ processed.1.carry.drop processed.1.pos
  processed.2 ++ (Lib.blocks literalLimit literal).map .data

/-- Successive pushes, with their tokens concatenated. -/
def pushAll (matcher : DeltaMatcher) : List Bytes → DeltaMatcher × List DeltaToken
  | [] => (matcher, [])
  | chunk :: rest =>
      let pushed := matcher.push blake3Truncated chunk
      let remaining := pushed.1.pushAll rest
      (remaining.1, pushed.2 ++ remaining.2)

end DeltaMatcher

/-- Tokens of a source pushed chunk by chunk and finished once. -/
def deltaMatchChunks (blake3Truncated : Bytes → StrongHash) (chunks : List Bytes)
    (signatures : List BlockSignature) (blockSize : UInt32) : List DeltaToken :=
  let pushed := (DeltaMatcher.new signatures blockSize).pushAll blake3Truncated chunks
  pushed.2 ++ pushed.1.finish blake3Truncated

def deltaMatch (blake3Truncated : Bytes → StrongHash) (srcData : Bytes)
    (signatures : List BlockSignature) (blockSize : UInt32) : List DeltaToken :=
  let pushed := (DeltaMatcher.new signatures blockSize).push blake3Truncated srcData
  pushed.2 ++ pushed.1.finish blake3Truncated

end Terrasync.SyncDelta
