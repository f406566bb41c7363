import Terrasync.SyncDelta.MatcherProperties
import Terrasync.SyncDelta.Reconstruct
import Terrasync.SyncDelta.SignatureProperties

/-! The delta round trip: a block reference is only emitted for a window that is
the referenced basis block, so reconstruction returns the source. -/

set_option autoImplicit false

namespace Terrasync.SyncDelta

/-- The bytes one token stands for. -/
def tokenBytes (basis : Bytes) (blockSize : UInt32) (token : DeltaToken) : Bytes :=
  (Reconstructor.push ⟨blockSize, basis.length⟩ token).resolve basis

theorem reconstruct_eq_flatMap (basis : Bytes) (tokens : List DeltaToken) (blockSize : UInt32) :
    reconstruct basis tokens blockSize = tokens.flatMap (tokenBytes basis blockSize) := by
  have accumulated : ∀ result : Bytes,
      tokens.foldl (fun result token => result ++ tokenBytes basis blockSize token) result =
        result ++ tokens.flatMap (tokenBytes basis blockSize) := by
    induction tokens with
    | nil => simp
    | cons token rest ih =>
        intro result
        rw [List.foldl_cons, ih, List.flatMap_cons, List.append_assoc]
  exact (accumulated []).trans (List.nil_append _)

@[simp] theorem tokenBytes_data (basis : Bytes) (blockSize : UInt32) (bytes : Bytes) :
    tokenBytes basis blockSize (.data bytes) = bytes := rfl

theorem tokenBytes_matchBlock {basis block : Bytes} {blockSize blockIndex : UInt32}
    (indexed : (basisBlocks blockSize basis)[blockIndex.toNat]? = some block) :
    tokenBytes basis blockSize (.matchBlock blockIndex) = block := by
  unfold basisBlocks at indexed
  split at indexed
  · simp at indexed
  · next nonzero =>
      have positive : 0 < blockSize.toNat := by
        have notZero : blockSize.toNat ≠ 0 := fun zero => nonzero (UInt32.toNat_inj.mp zero)
        exact Nat.pos_of_ne_zero notZero
      rw [Lib.getElem?_blocks positive] at indexed
      split at indexed
      · next inside =>
          have short : min (blockIndex.toNat * blockSize.toNat + blockSize.toNat) basis.length -
              blockIndex.toNat * blockSize.toNat < 2 ^ 32 := by
            have sized := blockSize.toNat_lt
            omega
          simp only [tokenBytes, Reconstructor.push, if_neg (Nat.not_le.mpr inside),
            ReconstructStep.resolve, UInt32.toNat_ofNat_of_lt' short]
          rw [← Option.some.inj indexed, List.take_eq_take_iff, List.length_drop]
          omega
      · cases indexed

theorem flatMap_blocks_data (basis : Bytes) (blockSize : UInt32) {size : Nat} (positive : 0 < size)
    (literal : Bytes) :
    ((Lib.blocks size literal).map DeltaToken.data).flatMap (tokenBytes basis blockSize) = literal := by
  simp only [List.flatMap_map, tokenBytes_data, List.flatMap_id', Lib.flatten_blocks positive]

/-- Every candidate of the table is a signature with its own index and checksum. -/
def SoundTable (signatures : List BlockSignature) (table : SigTable) : Prop :=
  ∀ rolling candidates, table rolling = some candidates → ∀ candidate ∈ candidates,
    ∃ position, signatures[position]? = some candidate.2 ∧
      candidate.1 = UInt32.ofNat position ∧ candidate.2.rolling = rolling

theorem insert_soundTable {signatures : List BlockSignature} {table : SigTable}
    {entry : BlockSignature × Nat} (sound : SoundTable signatures table)
    (indexed : signatures[entry.2]? = some entry.1) : SoundTable signatures (table.insert entry) := by
  intro rolling candidates inserted candidate member
  unfold SigTable.insert at inserted
  by_cases same : rolling = entry.1.rolling
  · subst same
    rw [Function.update_self] at inserted
    cases inserted
    rcases List.mem_append.mp member with earlier | added
    · cases previous : table entry.1.rolling with
      | none => simp [previous] at earlier
      | some listed =>
          rw [previous] at earlier
          exact sound _ _ previous candidate earlier
    · rw [List.mem_singleton.mp added]
      exact ⟨entry.2, indexed, rfl, rfl⟩
  · rw [Function.update_of_ne same] at inserted
    exact sound rolling candidates inserted candidate member

theorem foldl_insert_soundTable {signatures : List BlockSignature}
    {entries : List (BlockSignature × Nat)} {table : SigTable} (sound : SoundTable signatures table)
    (indexed : ∀ entry ∈ entries, signatures[entry.2]? = some entry.1) :
    SoundTable signatures (entries.foldl SigTable.insert table) := by
  induction entries generalizing table with
  | nil => exact sound
  | cons entry rest ih =>
      exact ih (insert_soundTable sound (indexed entry (by simp)))
        fun later member => indexed later (by simp [member])

theorem buildSigTable_soundTable (signatures : List BlockSignature) :
    SoundTable signatures (buildSigTable signatures) := by
  refine foldl_insert_soundTable (fun _ _ found => by cases found) ?_
  intro entry member
  exact List.mk_mem_zipIdx_iff_getElem?.mp member

open DeltaMatcher in
/-- A chosen block index names a signature with the strong hash of the window. -/
theorem choose_sound {blake3Truncated : Bytes → StrongHash} {signatures : List BlockSignature}
    {bs position : Nat} {window : Bytes} {blockIndex : UInt32}
    (chosen : choose blake3Truncated (buildSigTable signatures) signatures bs position window =
      some blockIndex) :
    ∃ index sig, signatures[index]? = some sig ∧ blockIndex = UInt32.ofNat index ∧
      sig.strong = blake3Truncated window := by
  simp only [choose] at chosen
  split at chosen
  · cases chosen
  · next candidates found =>
      rcases Option.or_eq_some_iff.mp chosen with samePosition | ⟨-, candidate⟩
      · simp only [preferred] at samePosition
        split at samePosition
        · split at samePosition
          · next sig indexed =>
              split at samePosition
              · next agrees =>
                  exact ⟨position / bs, sig, indexed, (Option.some.inj samePosition).symm, agrees.2⟩
              · cases samePosition
          · cases samePosition
        · cases samePosition
      · obtain ⟨entry, picked, rfl⟩ := Option.map_eq_some_iff.mp candidate
        obtain ⟨index, indexed, named, -⟩ :=
          buildSigTable_soundTable signatures _ _ found entry (List.mem_of_find?_eq_some picked)
        have strong := List.find?_some picked
        exact ⟨index, entry.2, indexed, named, by simpa using strong⟩

/-- The truncated hash tells the blocks of the basis from the full windows of the
source. -/
def CollisionFree (blake3Truncated : Bytes → StrongHash) (blockSize : UInt32)
    (basis source : Bytes) : Prop :=
  ∀ block ∈ basisBlocks blockSize basis, ∀ window, window <:+: source →
    window.length = blockSize.toNat → blake3Truncated block = blake3Truncated window → block = window

theorem CollisionFree.suffix {blake3Truncated : Bytes → StrongHash} {blockSize : UInt32}
    {basis source rest : Bytes} (free : CollisionFree blake3Truncated blockSize basis source)
    (suffix : rest <:+ source) : CollisionFree blake3Truncated blockSize basis rest :=
  fun block member window inside => free block member window (inside.trans suffix.isInfix)

section RoundTrip

variable {blake3Truncated : Bytes → StrongHash} {blockSize : UInt32} {basis : Bytes}

open DeltaMatcher SignatureCalculator

private def basisSignatures (blake3Truncated : Bytes → StrongHash) (blockSize : UInt32)
    (basis : Bytes) : List BlockSignature :=
  (basisBlocks blockSize basis).map (signature blake3Truncated)

theorem choose_tokenBytes {position : Nat} {window : Bytes} {blockIndex : UInt32}
    (few : (basisBlocks blockSize basis).length ≤ 2 ^ 32)
    (free : CollisionFree blake3Truncated blockSize basis window)
    (whole : window.length = blockSize.toNat)
    (chosen : choose blake3Truncated (buildSigTable (basisSignatures blake3Truncated blockSize basis))
      (basisSignatures blake3Truncated blockSize basis) blockSize.toNat position window =
        some blockIndex) :
    tokenBytes basis blockSize (.matchBlock blockIndex) = window := by
  obtain ⟨index, sig, indexed, rfl, strong⟩ := choose_sound chosen
  obtain ⟨block, found, rfl⟩ := Option.map_eq_some_iff.mp (List.getElem?_map ▸ indexed)
  have bounded : index < (basisBlocks blockSize basis).length := (List.getElem?_eq_some_iff.mp found).1
  have same := free block (List.mem_of_getElem? found) window List.infix_rfl whole strong
  rw [← same]
  refine tokenBytes_matchBlock ?_
  rw [UInt32.toNat_ofNat_of_lt' (bounded.trans_le few)]
  exact found

theorem flatMap_flushLiteral (literal : Bytes) :
    (flushLiteral literal).flatMap (tokenBytes basis blockSize) = literal := by
  cases literal with
  | nil => rfl
  | cons head tail => simp [flushLiteral]

theorem flatMap_pushLiteral (literal : Bytes) (byte : UInt8) :
    (pushLiteral literal byte).2.flatMap (tokenBytes basis blockSize) ++ (pushLiteral literal byte).1 =
      literal ++ [byte] := by
  unfold pushLiteral
  split <;> simp

/-- One window keeps the bytes: emitted tokens, pending literal and unread source
stand for what was pending and unread before. -/
theorem scanStep_bytes (state : ScanState) {unread : Bytes}
    (few : (basisBlocks blockSize basis).length ≤ 2 ^ 32)
    (free : CollisionFree blake3Truncated blockSize basis unread)
    (positive : 0 < blockSize.toNat) (available : blockSize.toNat ≤ unread.length) :
    let stepped := scanStep blake3Truncated
      (buildSigTable (basisSignatures blake3Truncated blockSize basis))
      (basisSignatures blake3Truncated blockSize basis) blockSize.toNat state unread
    stepped.2.1.flatMap (tokenBytes basis blockSize) ++ (stepped.1.literal ++ stepped.2.2) =
      state.literal ++ unread ∧ stepped.2.2 <:+ unread := by
  simp only [scanStep]
  split
  · next blockIndex chosen =>
      have window : tokenBytes basis blockSize (.matchBlock blockIndex) =
          unread.take blockSize.toNat :=
        choose_tokenBytes few
          (fun block member inner inside => free block member inner
            (inside.trans (List.take_prefix _ _).isInfix))
          (List.length_take_of_le available) chosen
      refine ⟨?_, List.drop_suffix _ _⟩
      simp [flatMap_flushLiteral, window, List.append_assoc]
  · refine ⟨?_, List.drop_suffix _ _⟩
    obtain ⟨head, tail, rfl⟩ := List.exists_cons_of_length_pos (show 0 < unread.length by omega)
    rw [← List.append_assoc, flatMap_pushLiteral]
    simp

theorem run_bytes (state : ScanState) (unread : Bytes)
    (few : (basisBlocks blockSize basis).length ≤ 2 ^ 32)
    (free : CollisionFree blake3Truncated blockSize basis unread) :
    let ran := (windowScanner blake3Truncated
      (buildSigTable (basisSignatures blake3Truncated blockSize basis))
      (basisSignatures blake3Truncated blockSize basis) blockSize.toNat).run state unread
    ran.2.1.flatMap (tokenBytes basis blockSize) ++ (ran.1.literal ++ ran.2.2) =
      state.literal ++ unread ∧ ran.2.2 <:+ unread := by
  induction state, unread using Lib.Scanner.run.induct (windowScanner blake3Truncated
    (buildSigTable (basisSignatures blake3Truncated blockSize basis))
    (basisSignatures blake3Truncated blockSize basis) blockSize.toNat) with
  | case1 state unread waits =>
      rw [Lib.Scanner.run_of_none waits]
      simp
  | case2 state unread next tokens rest steps ih =>
      rw [Lib.Scanner.run_of_some steps]
      simp only [windowScanner] at steps
      split at steps
      · next available =>
          obtain ⟨kept, shorter⟩ := scanStep_bytes state few free available.1 available.2
          rw [Option.some.inj steps] at kept shorter
          obtain ⟨restKept, restShorter⟩ := ih (free.suffix shorter)
          refine ⟨?_, restShorter.trans shorter⟩
          simp only [List.flatMap_append, List.append_assoc]
          rw [restKept, kept]
      · cases steps

/-- Delta transfer reproduces the source, however basis and source are chunked. -/
theorem reconstruct_deltaMatchChunks (blake3Truncated : Bytes → StrongHash) (blockSize : UInt32)
    (basisChunks sourceChunks : List Bytes)
    (few : (basisBlocks blockSize basisChunks.flatten).length ≤ 2 ^ 32)
    (free : CollisionFree blake3Truncated blockSize basisChunks.flatten sourceChunks.flatten) :
    reconstruct basisChunks.flatten
      (deltaMatchChunks blake3Truncated sourceChunks
        (signaturesOfChunks blake3Truncated blockSize basisChunks) blockSize) blockSize =
      sourceChunks.flatten := by
  rw [reconstruct_eq_flatMap, signaturesOfChunks_eq]
  by_cases zero : blockSize = 0
  · subst zero
    rw [tokens_of_zero, flatMap_blocks_data _ _ (by decide)]
  · rw [tokens_eq_scan _ _ _ zero]
    obtain ⟨kept, -⟩ := run_bytes ⟨0, []⟩ sourceChunks.flatten few free
    simp only [List.flatMap_append]
    rw [flatMap_blocks_data _ _ (by decide)]
    exact kept

end RoundTrip

/-- Truncated BLAKE3 digests of the byte strings "ab", "c" and "xa". -/
def sampleDigest (data : Bytes) : StrongHash :=
  if data = [97, 98] then #v[45, 201, 153, 153, 166, 170, 239, 63, 32, 52, 157, 46, 212, 5, 122, 43]
  else if data = [99] then #v[234, 122, 161, 252, 158, 253, 190, 16, 109, 187, 112, 54, 154, 117, 233, 103]
  else #v[227, 132, 204, 216, 226, 166, 113, 146, 139, 16, 126, 38, 93, 60, 38, 47]

theorem sampleDigest_collisionFree : CollisionFree sampleDigest 2 [97, 98, 99] [120, 97, 98] := by
  have blocks : basisBlocks 2 [97, 98, 99] = [[97, 98], [99]] := by
    simp [basisBlocks, Lib.blocks]
  intro block member window inside whole same
  rw [blocks] at member
  by_cases first : window = [97, 98]
  · subst first
    rcases List.mem_pair.mp member with rfl | rfl
    · rfl
    · exact absurd same (by decide)
  · by_cases second : window = [99]
    · subst second
      cases whole
    · have other : sampleDigest window =
          #v[227, 132, 204, 216, 226, 166, 113, 146, 139, 16, 126, 38, 93, 60, 38, 47] := by
        simp only [sampleDigest, if_neg first, if_neg second]
      rw [other] at same
      rcases List.mem_pair.mp member with rfl | rfl
      · exact absurd same (by decide)
      · exact absurd same (by decide)

/-- The basis "abc" cut inside a block, the source "xab" cut inside a window. -/
theorem reconstruct_deltaMatchChunks_sample :
    reconstruct [97, 98, 99]
      (deltaMatchChunks sampleDigest [[120, 97], [98]]
        (signaturesOfChunks sampleDigest 2 [[97], [98, 99]]) 2) 2 = [120, 97, 98] :=
  reconstruct_deltaMatchChunks sampleDigest 2 [[97], [98, 99]] [[120, 97], [98]]
    (by simp [basisBlocks, Lib.blocks]) sampleDigest_collisionFree

end Terrasync.SyncDelta
