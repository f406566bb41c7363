import Terrasync.SyncDelta.Signature

/-! Reconstruction of a file from the basis and delta tokens, `reconstruct.rs`.
Basis offsets fit `u64`, the product of two `u32` values. -/

set_option autoImplicit false

namespace Terrasync.SyncDelta

inductive ReconstructStep where
  | ready (bytes : Bytes)
  | needBasis (offset : Nat) (len : UInt32)
deriving DecidableEq, Repr

structure Reconstructor where
  blockSize : UInt32
  basisSize : Nat

def Reconstructor.push (reconstructor : Reconstructor) : DeltaToken → ReconstructStep
  | .data bytes => .ready bytes
  | .matchBlock blockIndex =>
      let offset := blockIndex.toNat * reconstructor.blockSize.toNat
      if reconstructor.basisSize ≤ offset then .ready []
      else
        let finish := min (offset + reconstructor.blockSize.toNat) reconstructor.basisSize
        .needBasis offset (UInt32.ofNat (finish - offset))

/-- The bytes appended for one token. -/
def ReconstructStep.resolve (basisData : Bytes) : ReconstructStep → Bytes
  | .ready bytes => bytes
  | .needBasis offset len => (basisData.drop offset).take len.toNat

def reconstruct (basisData : Bytes) (tokens : List DeltaToken) (blockSize : UInt32) : Bytes :=
  let reconstructor : Reconstructor := ⟨blockSize, basisData.length⟩
  tokens.foldl (fun result token => result ++ (reconstructor.push token).resolve basisData) []

end Terrasync.SyncDelta
