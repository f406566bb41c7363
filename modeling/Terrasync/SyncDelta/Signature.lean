import Terrasync.SyncDelta.Rolling

/-! Block signatures of `signature.rs`. The calculator accepts the basis file in
arbitrary chunks and stages at most one partial block. -/

set_option autoImplicit false

namespace Terrasync.SyncDelta

/-- BLAKE3 truncated to `STRONG_HASH_LEN` bytes. -/
abbrev StrongHash := Vector UInt8 16

structure BlockSignature where
  rolling : UInt32
  strong : StrongHash
deriving DecidableEq, Repr

inductive DeltaToken where
  /-- `Match { block_index }`: copy a block of the basis file. -/
  | matchBlock (blockIndex : UInt32)
  | data (bytes : Bytes)
deriving DecidableEq, Repr

/-- The incremental signature state. A staged partial block never fills a block:
`flushBlock` empties the buffer as soon as it does. -/
structure SignatureCalculator where
  blockSize : Nat
  buffer : Bytes
  signatures : List BlockSignature
  staged : buffer = [] ∨ buffer.length < blockSize

namespace SignatureCalculator

def new (blockSize : UInt32) : SignatureCalculator where
  blockSize := blockSize.toNat
  buffer := []
  signatures := []
  staged := .inl rfl

variable (blake3Truncated : Bytes → StrongHash)

/-- The signature `flush_block` computes for a staged buffer. -/
def signature (block : Bytes) : BlockSignature :=
  ⟨RollingChecksum.checksum block, blake3Truncated block⟩

def flushBlock (calculator : SignatureCalculator) : SignatureCalculator where
  blockSize := calculator.blockSize
  buffer := []
  signatures := calculator.signatures ++ [signature blake3Truncated calculator.buffer]
  staged := .inl rfl

/-- Bytes the next iteration of `push` moves into the buffer. -/
def takeLength (calculator : SignatureCalculator) (bytes : Bytes) : Nat :=
  min (calculator.blockSize - calculator.buffer.length) bytes.length

/-- One iteration of the loop of `push`. -/
def fill (calculator : SignatureCalculator) (bytes : Bytes) : SignatureCalculator :=
  let buffer := calculator.buffer ++ bytes.take (calculator.takeLength bytes)
  if full : buffer.length = calculator.blockSize then
    { blockSize := calculator.blockSize
      buffer := []
      signatures := calculator.signatures ++ [signature blake3Truncated buffer]
      staged := .inl rfl }
  else
    { blockSize := calculator.blockSize
      buffer := buffer
      signatures := calculator.signatures
      staged := by
        have staged := calculator.staged
        simp only [buffer, takeLength, List.length_append, List.length_take] at full ⊢
        rcases staged with empty | short
        · simp only [empty, List.length_nil] at full ⊢
          omega
        · omega }

@[simp] theorem fill_blockSize (calculator : SignatureCalculator) (bytes : Bytes) :
    (calculator.fill blake3Truncated bytes).blockSize = calculator.blockSize := by
  simp only [fill]
  split <;> rfl

theorem takeLength_pos (calculator : SignatureCalculator) {bytes : Bytes}
    (positive : calculator.blockSize ≠ 0) (nonempty : bytes ≠ []) :
    0 < calculator.takeLength bytes := by
  have remaining := List.length_pos_iff.mpr nonempty
  unfold takeLength
  rcases calculator.staged with empty | short
  · rw [empty, List.length_nil]
    omega
  · omega

def push (calculator : SignatureCalculator) (bytes : Bytes) : SignatureCalculator :=
  if _done : calculator.blockSize = 0 ∨ bytes = [] then calculator
  else push (calculator.fill blake3Truncated bytes) (bytes.drop (calculator.takeLength bytes))
termination_by bytes.length
decreasing_by
  push Not at _done
  have progress := calculator.takeLength_pos _done.1 _done.2
  have remaining := List.length_pos_iff.mpr _done.2
  simp only [List.length_drop]
  omega

/-- The signatures `finish` returns, the last partial block included. -/
def finish (calculator : SignatureCalculator) : List BlockSignature :=
  if calculator.buffer.isEmpty then calculator.signatures
  else (calculator.flushBlock blake3Truncated).signatures

end SignatureCalculator

/-- Signatures of a basis pushed chunk by chunk. -/
def signaturesOfChunks (blake3Truncated : Bytes → StrongHash) (blockSize : UInt32)
    (chunks : List Bytes) : List BlockSignature :=
  (chunks.foldl (SignatureCalculator.push blake3Truncated) (.new blockSize)).finish blake3Truncated

def computeBlockSignatures (blake3Truncated : Bytes → StrongHash) (data : Bytes)
    (blockSize : UInt32) : List BlockSignature :=
  ((SignatureCalculator.new blockSize).push blake3Truncated data).finish blake3Truncated

end Terrasync.SyncDelta
