import Terrasync.SyncDelta.Signature

/-! The calculator signs exactly the consecutive blocks of the basis, however the
basis is cut into chunks. -/

set_option autoImplicit false

namespace Terrasync.SyncDelta

/-- The blocks a basis is divided into: none when the block size is rejected. -/
def basisBlocks (blockSize : UInt32) (basis : Bytes) : List Bytes :=
  if blockSize = 0 then [] else Lib.blocks blockSize.toNat basis

namespace SignatureCalculator

variable (blake3Truncated : Bytes → StrongHash)

/-- The calculator has signed every full block of `data` and stages the rest. -/
structure Signed (calculator : SignatureCalculator) (data : Bytes) : Prop where
  covered : ∃ full : List Bytes, (∀ block ∈ full, block.length = calculator.blockSize) ∧
    data = full.flatten ++ calculator.buffer ∧
    calculator.signatures = full.map (signature blake3Truncated)

theorem new_signed (blockSize : UInt32) : (new blockSize).Signed blake3Truncated [] :=
  ⟨[], by simp, rfl, rfl⟩

variable {blake3Truncated}

theorem fill_signed {calculator : SignatureCalculator} {data : Bytes} (bytes : Bytes)
    (signed : calculator.Signed blake3Truncated data) :
    (calculator.fill blake3Truncated bytes).Signed blake3Truncated
      (data ++ bytes.take (calculator.takeLength bytes)) := by
  obtain ⟨full, exact, rfl, signatures⟩ := signed.covered
  simp only [fill]
  split
  · next filled =>
      refine ⟨full ++ [calculator.buffer ++ bytes.take (calculator.takeLength bytes)], ?_, ?_, ?_⟩
      · intro block member
        rcases List.mem_append.mp member with earlier | last
        · exact exact block earlier
        · rw [List.mem_singleton.mp last]
          exact filled
      · simp
      · simp [signatures]
  · exact ⟨full, exact, by simp, signatures⟩

@[simp] theorem push_blockSize (calculator : SignatureCalculator) (bytes : Bytes) :
    (calculator.push blake3Truncated bytes).blockSize = calculator.blockSize := by
  induction calculator, bytes using push.induct blake3Truncated with
  | case1 calculator bytes done => rw [push, dif_pos done]
  | case2 calculator bytes continues ih => rw [push, dif_neg continues, ih, fill_blockSize]

theorem push_signed {calculator : SignatureCalculator} {data : Bytes} (bytes : Bytes)
    (positive : calculator.blockSize ≠ 0) (signed : calculator.Signed blake3Truncated data) :
    (calculator.push blake3Truncated bytes).Signed blake3Truncated (data ++ bytes) := by
  induction calculator, bytes using push.induct blake3Truncated generalizing data with
  | case1 calculator bytes done =>
      rcases done with zero | empty
      · exact absurd zero positive
      · rw [push, dif_pos (.inr empty), empty, List.append_nil]
        exact signed
  | case2 calculator bytes continues ih =>
      rw [push, dif_neg continues]
      have filled := ih (by rw [fill_blockSize]; exact positive) (fill_signed bytes signed)
      rwa [List.append_assoc, List.take_append_drop] at filled

theorem foldl_push_signed {calculator : SignatureCalculator} {data : Bytes} (chunks : List Bytes)
    (positive : calculator.blockSize ≠ 0) (signed : calculator.Signed blake3Truncated data) :
    (chunks.foldl (push blake3Truncated) calculator).blockSize = calculator.blockSize ∧
      (chunks.foldl (push blake3Truncated) calculator).Signed blake3Truncated
        (data ++ chunks.flatten) := by
  induction chunks generalizing calculator data with
  | nil => simpa using signed
  | cons chunk rest ih =>
      have pushed := ih (by rw [push_blockSize]; exact positive) (push_signed chunk positive signed)
      rw [push_blockSize, List.append_assoc] at pushed
      exact pushed

/-- Full blocks in front of a shorter rest are the blocks of the whole. -/
theorem blocks_flatten_append {size : Nat} (positive : 0 < size) {full : List Bytes} {rest : Bytes}
    (exact : ∀ block ∈ full, block.length = size) :
    Lib.blocks size (full.flatten ++ rest) = full ++ Lib.blocks size rest := by
  induction full with
  | nil => rfl
  | cons block others ih =>
      rw [List.flatten_cons, List.append_assoc, Lib.blocks_append positive _ (exact block (by simp)),
        ih (fun later member => exact later (by simp [member])), List.cons_append]

theorem finish_of_signed {calculator : SignatureCalculator} {data : Bytes}
    (positive : calculator.blockSize ≠ 0) (signed : calculator.Signed blake3Truncated data) :
    calculator.finish blake3Truncated =
      (Lib.blocks calculator.blockSize data).map (signature blake3Truncated) := by
  obtain ⟨full, exact, rfl, signatures⟩ := signed.covered
  rw [blocks_flatten_append (Nat.pos_of_ne_zero positive) exact]
  unfold finish
  cases stagedBytes : calculator.buffer with
  | nil => simp [signatures]
  | cons head tail =>
      have short : calculator.buffer.length ≤ calculator.blockSize := by
        rcases calculator.staged with empty | short
        · rw [empty] at stagedBytes
          cases stagedBytes
        · omega
      rw [Lib.blocks_of_length_le (Nat.pos_of_ne_zero positive) (by simp) (stagedBytes ▸ short)]
      simp [flushBlock, signatures, stagedBytes]

theorem foldl_push_of_zero {calculator : SignatureCalculator} (chunks : List Bytes)
    (zero : calculator.blockSize = 0) : chunks.foldl (push blake3Truncated) calculator = calculator := by
  induction chunks with
  | nil => rfl
  | cons chunk rest ih => rw [List.foldl_cons, push, dif_pos (.inl zero), ih]

end SignatureCalculator

open SignatureCalculator in
/-- Chunk boundaries of the basis are invisible in its signatures. -/
theorem signaturesOfChunks_eq (blake3Truncated : Bytes → StrongHash) (blockSize : UInt32)
    (chunks : List Bytes) :
    signaturesOfChunks blake3Truncated blockSize chunks =
      (basisBlocks blockSize chunks.flatten).map (signature blake3Truncated) := by
  unfold signaturesOfChunks basisBlocks
  by_cases zero : blockSize = 0
  · rw [if_pos zero, foldl_push_of_zero chunks (by rw [zero]; rfl)]
    rfl
  · have positive : (new blockSize).blockSize ≠ 0 := by
      intro none
      exact zero (UInt32.toNat_inj.mp none)
    obtain ⟨size, signed⟩ := foldl_push_signed chunks positive (new_signed blake3Truncated blockSize)
    rw [finish_of_signed (by rw [size]; exact positive) signed, size, if_neg zero, List.nil_append]
    rfl

theorem signaturesOfChunks_eq_whole (blake3Truncated : Bytes → StrongHash) (blockSize : UInt32)
    (chunks : List Bytes) :
    signaturesOfChunks blake3Truncated blockSize chunks =
      computeBlockSignatures blake3Truncated chunks.flatten blockSize := by
  have whole := signaturesOfChunks_eq blake3Truncated blockSize [chunks.flatten]
  rw [List.flatten_singleton] at whole
  rw [signaturesOfChunks_eq, ← whole]
  rfl

end Terrasync.SyncDelta
