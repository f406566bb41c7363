import Terrasync.Lib.Blocks

/-! The rolling checksum of `rolling.rs`: an Adler variant over a byte window,
computed in batches and updated in constant time when the window slides. Sums
are `u32`, the sliding update runs in `u64`. -/

set_option autoImplicit false

namespace Terrasync.SyncDelta

abbrev Bytes := List UInt8

@[ext]
structure RollingChecksum where
  a : UInt32
  b : UInt32
deriving DecidableEq, Repr

namespace RollingChecksum

/-- `MODULUS`, the largest prime below `2^16`. -/
def modulus : UInt32 := 65521

/-- Bytes accumulated between two reductions. -/
def batchBytes : Nat := 5552

def new : RollingChecksum := ⟨0, 0⟩

/-- One byte of the inner loop of `sums`, without reduction. -/
def accumulate (sums : UInt32 × UInt32) (byte : UInt8) : UInt32 × UInt32 :=
  (sums.1 + byte.toUInt32, sums.2 + (sums.1 + byte.toUInt32))

/-- One batch of the outer loop of `sums`: accumulate, then reduce both sums. -/
def batch (sums : UInt32 × UInt32) (chunk : Bytes) : UInt32 × UInt32 :=
  let accumulated := chunk.foldl accumulate sums
  (accumulated.1 % modulus, accumulated.2 % modulus)

def sums (data : Bytes) : UInt32 × UInt32 :=
  (Lib.blocks batchBytes data).foldl batch (0, 0)

def checksum (data : Bytes) : UInt32 :=
  ((sums data).2 <<< 16) ||| (sums data).1

def init (data : Bytes) : RollingChecksum :=
  ⟨(sums data).1, (sums data).2⟩

def update (state : RollingChecksum) (oldByte newByte : UInt8) (windowSize : UInt32) : RollingChecksum :=
  let old := oldByte.toUInt64
  let new := newByte.toUInt64
  let m := modulus.toUInt64
  let n := windowSize.toUInt64
  let a := state.a.toUInt64
  let b := state.b.toUInt64
  let aNew := (a + m + new - old) % m
  let nOld := (n % m) * (old % m) % m
  let bNew := (b + m + aNew - nOld) % m
  ⟨aNew.toUInt32, bNew.toUInt32⟩

def digest (state : RollingChecksum) : UInt32 :=
  (state.b <<< 16) ||| state.a

end RollingChecksum

end Terrasync.SyncDelta
