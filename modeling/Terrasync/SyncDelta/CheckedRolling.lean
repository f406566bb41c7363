import Mathlib.Data.List.Induction
import Terrasync.SyncDelta.RollingProperties

/-! The rolling checksum under checked arithmetic: every `+`, `-` and `*` of
`rolling.rs` fails where its exact result leaves the machine word. None of them
ever fails, and a slid window carries the checksum of its bytes. -/

set_option autoImplicit false

namespace Terrasync.SyncDelta

namespace RollingChecksum

def addU32 (left right : UInt32) : Option UInt32 :=
  if left.toNat + right.toNat < 2 ^ 32 then some (left + right) else none

def addU64 (left right : UInt64) : Option UInt64 :=
  if left.toNat + right.toNat < 2 ^ 64 then some (left + right) else none

def subU64 (left right : UInt64) : Option UInt64 :=
  if right.toNat ≤ left.toNat then some (left - right) else none

def mulU64 (left right : UInt64) : Option UInt64 :=
  if left.toNat * right.toNat < 2 ^ 64 then some (left * right) else none

/-- `a += u32::from(byte); b += a;` -/
def checkedAccumulate (sums : UInt32 × UInt32) (byte : UInt8) : Option (UInt32 × UInt32) := do
  let a ← addU32 sums.1 byte.toUInt32
  let b ← addU32 sums.2 a
  return (a, b)

def checkedBatch (sums : UInt32 × UInt32) (chunk : Bytes) : Option (UInt32 × UInt32) := do
  let accumulated ← chunk.foldlM checkedAccumulate sums
  return (accumulated.1 % modulus, accumulated.2 % modulus)

def checkedSums (data : Bytes) : Option (UInt32 × UInt32) :=
  (Lib.blocks batchBytes data).foldlM checkedBatch (0, 0)

/-- `(sum + m + entering - leaving) % m`, the shape of both assignments of `update`. -/
def slideSum (sum m entering leaving : UInt64) : Option UInt64 := do
  let raised ← addU64 sum m
  let entered ← addU64 raised entering
  let left ← subU64 entered leaving
  return left % m

def checkedUpdate (state : RollingChecksum) (oldByte newByte : UInt8) (windowSize : UInt32) :
    Option RollingChecksum := do
  let m := modulus.toUInt64
  let aNew ← slideSum state.a.toUInt64 m newByte.toUInt64 oldByte.toUInt64
  let product ← mulU64 (windowSize.toUInt64 % m) (oldByte.toUInt64 % m)
  let bNew ← slideSum state.b.toUInt64 m aNew (product % m)
  return ⟨aNew.toUInt32, bNew.toUInt32⟩

/-- One byte of the Adler sums that reduce after every addition. -/
def adlerStep (sums : Nat × Nat) (byte : UInt8) : Nat × Nat :=
  let a := (sums.1 + byte.toNat) % 65521
  (a, (sums.2 + a) % 65521)

def adlerSums (data : Bytes) : Nat × Nat := data.foldl adlerStep (0, 0)

/-- `init` on the first window, then one `update` for each byte up to `position`. -/
def slid (data : Bytes) (windowSize : UInt32) : Nat → RollingChecksum
  | 0 => init (data.take windowSize.toNat)
  | position + 1 =>
      (slid data windowSize position).update (data.getD position 0)
        (data.getD (position + windowSize.toNat) 0) windowSize

/-! ### The batched sums -/

theorem adlerSums_eq (data : Bytes) :
    adlerSums data = (byteSum data % 65521, weightedSum data % 65521) := by
  induction data using List.reverseRecOn with
  | nil => rfl
  | append_singleton rest byte ih =>
      have summed : adlerSums (rest ++ [byte]) = adlerStep (adlerSums rest) byte := by
        simp [adlerSums, List.foldl_append]
      rw [summed, ih]
      simp only [adlerStep, byteSum_append, weightedSum_append, byteSum, weightedSum,
        List.length_singleton, List.length_nil]
      apply Prod.ext
      · simp only
        omega
      · simp only
        omega

theorem checkedAccumulate_eq {sums : UInt32 × UInt32} {byte : UInt8}
    (first : sums.1.toNat + byte.toNat < 2 ^ 32)
    (second : sums.2.toNat + (sums.1.toNat + byte.toNat) < 2 ^ 32) :
    checkedAccumulate sums byte = some (accumulate sums byte) := by
  have entered : (sums.1 + byte.toUInt32).toNat = sums.1.toNat + byte.toNat := by
    simp only [UInt32.toNat_add, UInt8.toNat_toUInt32]
    omega
  have firstFits : sums.1.toNat + byte.toUInt32.toNat < 2 ^ 32 := by
    rw [UInt8.toNat_toUInt32]
    exact first
  have secondFits : sums.2.toNat + (sums.1 + byte.toUInt32).toNat < 2 ^ 32 := by
    rw [entered]
    exact second
  simp only [checkedAccumulate, addU32, if_pos firstFits, if_pos secondFits, accumulate,
    Option.bind_eq_bind, Option.bind_some, Option.pure_def]

/-- The inner loop never overflows while the exact sums of the chunk fit. -/
theorem foldlM_checkedAccumulate (chunk : Bytes) (sums : UInt32 × UInt32)
    (first : sums.1.toNat + byteSum chunk < 2 ^ 32)
    (second : sums.2.toNat + chunk.length * sums.1.toNat + weightedSum chunk < 2 ^ 32) :
    chunk.foldlM checkedAccumulate sums = some (chunk.foldl accumulate sums) := by
  induction chunk generalizing sums with
  | nil => rfl
  | cons byte rest ih =>
      simp only [byteSum, weightedSum, List.length_cons] at first second
      have expanded : (rest.length + 1) * byte.toNat = rest.length * byte.toNat + byte.toNat := by ring
      have spread : (rest.length + 1) * sums.1.toNat = rest.length * sums.1.toNat + sums.1.toNat := by
        ring
      have stepped := @checkedAccumulate_eq sums byte (by omega) (by omega)
      have reached := foldl_accumulate [byte] sums (by simp only [byteSum]; omega)
        (by simp only [weightedSum, List.length_singleton, List.length_nil]; omega)
      simp only [List.foldl_cons, List.foldl_nil, byteSum, weightedSum, List.length_singleton,
        List.length_nil] at reached
      have product : rest.length * (sums.1.toNat + byte.toNat) =
          rest.length * sums.1.toNat + rest.length * byte.toNat := by ring
      rw [List.foldlM_cons, stepped, List.foldl_cons]
      refine ih (accumulate sums byte) ?_ ?_
      · rw [reached.1]
        omega
      · rw [reached.1, reached.2]
        simp only [Nat.add_zero, Nat.zero_add, Nat.one_mul, product]
        omega

theorem checkedBatch_eq {sums : UInt32 × UInt32} {consumed chunk : Bytes} (valid : IsSums sums consumed)
    (short : chunk.length ≤ batchBytes) : checkedBatch sums chunk = some (batch sums chunk) := by
  have fits := batch_fits short (Nat.mod_lt (byteSum consumed) (by decide : 0 < 65521))
    (Nat.mod_lt (weightedSum consumed) (by decide : 0 < 65521))
  rw [← valid.1, ← valid.2] at fits
  simp only [checkedBatch, foldlM_checkedAccumulate chunk sums fits.1 fits.2, batch,
    Option.bind_eq_bind, Option.bind_some, Option.pure_def]

theorem foldlM_checkedBatch {chunks : List Bytes} (short : ∀ chunk ∈ chunks, chunk.length ≤ batchBytes)
    {sums : UInt32 × UInt32} {consumed : Bytes} (valid : IsSums sums consumed) :
    chunks.foldlM checkedBatch sums = some (chunks.foldl batch sums) := by
  induction chunks generalizing sums consumed with
  | nil => rfl
  | cons chunk rest ih =>
      have bounded := short chunk List.mem_cons_self
      rw [List.foldlM_cons, checkedBatch_eq valid bounded, List.foldl_cons]
      exact ih (fun later member => short later (List.mem_cons_of_mem _ member))
        (batch_isSums valid bounded)

theorem checkedSums_eq (data : Bytes) : checkedSums data = some (sums data) := by
  have start : IsSums (0, 0) [] := by simp [IsSums, byteSum, weightedSum]
  exact foldlM_checkedBatch (fun _ member => (Lib.mem_blocks (by decide) member).2) start

theorem sums_adler (data : Bytes) :
    ((sums data).1.toNat, (sums data).2.toNat) = adlerSums data := by
  obtain ⟨first, second⟩ := sums_exact data
  rw [adlerSums_eq, first, second]

/-! ### The sliding window -/

/-- The modulus covers what leaves the window, and the sum stays far below `2^64`. -/
theorem slideSum_eq {sum m entering leaving : UInt64}
    (fits : sum.toNat + m.toNat + entering.toNat < 2 ^ 64) (covered : leaving.toNat ≤ m.toNat) :
    slideSum sum m entering leaving = some ((sum + m + entering - leaving) % m) := by
  have raised : (sum + m).toNat = sum.toNat + m.toNat := by
    rw [UInt64.toNat_add]
    omega
  have entered : (sum + m + entering).toNat = sum.toNat + m.toNat + entering.toNat := by
    rw [UInt64.toNat_add, raised]
    omega
  have first : addU64 sum m = some (sum + m) := if_pos (by omega)
  have second : addU64 (sum + m) entering = some (sum + m + entering) := if_pos (by omega)
  have third : subU64 (sum + m + entering) leaving = some (sum + m + entering - leaving) := if_pos (by omega)
  simp only [slideSum, first, second, third, Option.bind_eq_bind, Option.bind_some, Option.pure_def]

theorem toNat_mod_modulus (value : UInt64) : (value % modulus.toUInt64).toNat < 65521 := by
  rw [UInt64.toNat_mod]
  exact Nat.mod_lt _ (by decide)

theorem checkedUpdate_eq (state : RollingChecksum) (old new : UInt8) (windowSize : UInt32) :
    checkedUpdate state old new windowSize = some (state.update old new windowSize) := by
  have oldBound : old.toUInt64.toNat < 256 := old.toNat_lt
  have newBound : new.toUInt64.toNat < 256 := new.toNat_lt
  have aBound : state.a.toUInt64.toNat < 2 ^ 32 := state.a.toNat_lt
  have bBound : state.b.toUInt64.toNat < 2 ^ 32 := state.b.toNat_lt
  have reduced := toNat_mod_modulus
  have m : modulus.toUInt64.toNat = 65521 := rfl
  simp only [checkedUpdate, update]
  generalize modulus.toUInt64 = m64 at m reduced ⊢
  have first : slideSum state.a.toUInt64 m64 new.toUInt64 old.toUInt64 = some _ :=
    slideSum_eq (by omega) (by omega)
  have product : mulU64 (windowSize.toUInt64 % m64) (old.toUInt64 % m64) =
      some (windowSize.toUInt64 % m64 * (old.toUInt64 % m64)) := by
    refine if_pos ?_
    calc _ ≤ 65521 * 65521 := Nat.mul_le_mul (Nat.le_of_lt (reduced _)) (Nat.le_of_lt (reduced _))
      _ < 2 ^ 64 := by decide
  have second (aNew nOld : UInt64) : slideSum state.b.toUInt64 m64 (aNew % m64) (nOld % m64) = some _ :=
    slideSum_eq (by have := reduced aNew; omega) (by have := reduced nOld; omega)
  rw [first, Option.bind_eq_bind, Option.bind_some, product, Option.bind_some, second]
  rfl

theorem slid_eq {data : Bytes} {windowSize : UInt32} (positive : 0 < windowSize.toNat) {position : Nat}
    (inside : position + windowSize.toNat ≤ data.length) :
    slid data windowSize position = init ((data.drop position).take windowSize.toNat) := by
  induction position with
  | zero => rfl
  | succ position ih =>
      obtain ⟨kept, size, here, next⟩ := window_slide positive inside
      rw [slid, ih (by omega), here, next]
      exact update_init _ _ _ size.symm

/-- The rolling checksum is exact: the batched sums are the Adler sums reduced at
every byte, no operation of `sums` or `update` overflows or underflows, and after
any number of slides the digest is the checksum of the window. -/
theorem rolling_checksum_exact :
    (∀ data : Bytes, checkedSums data = some (sums data) ∧
      ((sums data).1.toNat, (sums data).2.toNat) = adlerSums data) ∧
    (∀ (state : RollingChecksum) (old new : UInt8) (windowSize : UInt32),
      checkedUpdate state old new windowSize = some (state.update old new windowSize)) ∧
    ∀ (data : Bytes) (windowSize : UInt32) (position : Nat), 1 ≤ windowSize →
      position + windowSize.toNat ≤ data.length →
        (slid data windowSize position).digest =
          checksum ((data.drop position).take windowSize.toNat) := by
  refine ⟨fun data => ⟨checkedSums_eq data, sums_adler data⟩, checkedUpdate_eq, ?_⟩
  intro data windowSize position positive inside
  rw [slid_eq (Nat.pos_of_ne_zero fun zero => ?_) inside]
  · rfl
  · rw [UInt32.le_iff_toNat_le, zero] at positive
    exact absurd positive (by decide)

/-- Three slides of a window of two bytes. -/
theorem rolling_checksum_exact_slid :
    (slid [97, 98, 99, 100, 101] 2 3).digest = checksum [100, 101] :=
  rolling_checksum_exact.2.2 [97, 98, 99, 100, 101] 2 3 (by decide) (by decide)

end RollingChecksum

end Terrasync.SyncDelta
