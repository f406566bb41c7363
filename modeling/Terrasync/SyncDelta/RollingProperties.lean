import Mathlib.Data.List.GetD
import Mathlib.Tactic.Linarith
import Mathlib.Tactic.Ring
import Terrasync.SyncDelta.Rolling

/-! Exactness of the rolling checksum: the batched sums never leave `u32`, and a
slid window carries the same sums as a window summed from scratch. -/

set_option autoImplicit false

namespace Terrasync.SyncDelta

/-- Plain sum of the bytes. -/
def byteSum : Bytes → Nat
  | [] => 0
  | byte :: rest => byte.toNat + byteSum rest

/-- Sum of the running sums: each byte weighted by its distance from the end. -/
def weightedSum : Bytes → Nat
  | [] => 0
  | byte :: rest => (rest.length + 1) * byte.toNat + weightedSum rest

theorem byteSum_append (left right : Bytes) : byteSum (left ++ right) = byteSum left + byteSum right := by
  induction left with
  | nil => simp [byteSum]
  | cons byte rest ih => simp only [List.cons_append, byteSum, ih]; omega

theorem weightedSum_append (left right : Bytes) :
    weightedSum (left ++ right) = weightedSum left + right.length * byteSum left + weightedSum right := by
  induction left with
  | nil => simp [weightedSum, byteSum]
  | cons byte rest ih =>
      simp only [List.cons_append, weightedSum, byteSum, ih, List.length_append]
      ring

theorem byteSum_le (data : Bytes) : byteSum data ≤ 255 * data.length := by
  induction data with
  | nil => simp [byteSum]
  | cons byte rest ih =>
      have bounded : byte.toNat < 256 := byte.toNat_lt
      simp only [byteSum, List.length_cons]
      omega

theorem weightedSum_le (data : Bytes) : 2 * weightedSum data ≤ 255 * (data.length * (data.length + 1)) := by
  induction data with
  | nil => simp [weightedSum]
  | cons byte rest ih =>
      have bounded : byte.toNat ≤ 255 := Nat.le_of_lt_succ byte.toNat_lt
      have head : (rest.length + 1) * byte.toNat ≤ (rest.length + 1) * 255 := Nat.mul_le_mul_left _ bounded
      simp only [weightedSum, List.length_cons]
      nlinarith

namespace RollingChecksum

@[simp] theorem toNat_modulus : modulus.toNat = 65521 := rfl

/-- The inner loop of `sums` as exact arithmetic, as long as no intermediate
value reaches `2^32`. -/
theorem foldl_accumulate (chunk : Bytes) (sums : UInt32 × UInt32)
    (first : sums.1.toNat + byteSum chunk < 2 ^ 32)
    (second : sums.2.toNat + chunk.length * sums.1.toNat + weightedSum chunk < 2 ^ 32) :
    (chunk.foldl accumulate sums).1.toNat = sums.1.toNat + byteSum chunk ∧
      (chunk.foldl accumulate sums).2.toNat =
        sums.2.toNat + chunk.length * sums.1.toNat + weightedSum chunk := by
  induction chunk generalizing sums with
  | nil => simp [byteSum, weightedSum]
  | cons byte rest ih =>
      simp only [byteSum, weightedSum, List.length_cons] at first second
      have expanded : (rest.length + 1) * byte.toNat = rest.length * byte.toNat + byte.toNat := by ring
      have spread : (rest.length + 1) * sums.1.toNat = rest.length * sums.1.toNat + sums.1.toNat := by ring
      have stepFirst : (accumulate sums byte).1.toNat = sums.1.toNat + byte.toNat := by
        simp only [accumulate, UInt32.toNat_add, UInt8.toNat_toUInt32]
        omega
      have stepSecond : (accumulate sums byte).2.toNat = sums.2.toNat + (sums.1.toNat + byte.toNat) := by
        simp only [accumulate, UInt32.toNat_add, UInt8.toNat_toUInt32]
        omega
      have product : rest.length * (sums.1.toNat + byte.toNat) =
          rest.length * sums.1.toNat + rest.length * byte.toNat := by ring
      obtain ⟨restFirst, restSecond⟩ := ih (accumulate sums byte)
        (by rw [stepFirst]; omega) (by rw [stepFirst, stepSecond, product]; omega)
      simp only [List.foldl_cons, byteSum, weightedSum, List.length_cons]
      rw [restFirst, restSecond, stepFirst, stepSecond, product]
      omega

/-- The largest sums a batch of at most `batchBytes` bytes can reach. -/
theorem batch_fits {chunk : Bytes} (short : chunk.length ≤ batchBytes) {first second : Nat}
    (firstReduced : first < 65521) (secondReduced : second < 65521) :
    first + byteSum chunk < 2 ^ 32 ∧ second + chunk.length * first + weightedSum chunk < 2 ^ 32 := by
  have plain := byteSum_le chunk
  have weighted := weightedSum_le chunk
  unfold batchBytes at short
  have square : chunk.length * (chunk.length + 1) ≤ 5552 * 5553 := Nat.mul_le_mul short (by omega)
  have carried : chunk.length * first ≤ 5552 * 65520 := Nat.mul_le_mul short (by omega)
  omega

/-- Both components of `sums` for a prefix, as exact remainders. -/
def IsSums (sums : UInt32 × UInt32) (data : Bytes) : Prop :=
  sums.1.toNat = byteSum data % 65521 ∧ sums.2.toNat = weightedSum data % 65521

theorem batch_isSums {sums : UInt32 × UInt32} {consumed chunk : Bytes} (valid : IsSums sums consumed)
    (short : chunk.length ≤ batchBytes) : IsSums (batch sums chunk) (consumed ++ chunk) := by
  obtain ⟨firstExact, secondExact⟩ := valid
  have fits := batch_fits short (Nat.mod_lt (byteSum consumed) (by decide : 0 < 65521))
    (Nat.mod_lt (weightedSum consumed) (by decide : 0 < 65521))
  rw [← firstExact, ← secondExact] at fits
  obtain ⟨first, second⟩ := foldl_accumulate chunk sums fits.1 fits.2
  constructor
  · simp only [batch, UInt32.toNat_mod, toNat_modulus, first, firstExact, byteSum_append]
    omega
  · simp only [batch, UInt32.toNat_mod, toNat_modulus, second, secondExact, firstExact,
      weightedSum_append]
    have carried := Nat.mul_mod_mod chunk.length (byteSum consumed) 65521
    omega

theorem foldl_batch_isSums {chunks : List Bytes} (short : ∀ chunk ∈ chunks, chunk.length ≤ batchBytes)
    {sums : UInt32 × UInt32} {consumed : Bytes} (valid : IsSums sums consumed) :
    IsSums (chunks.foldl batch sums) (consumed ++ chunks.flatten) := by
  induction chunks generalizing sums consumed with
  | nil => simpa using valid
  | cons chunk rest ih =>
      have next := batch_isSums valid (short chunk (by simp))
      simpa [List.append_assoc] using ih (fun later member => short later (by simp [member])) next

/-- `sums` computes the two Adler sums of the whole input modulo 65521. -/
theorem sums_exact (data : Bytes) : IsSums (sums data) data := by
  have start : IsSums (0, 0) [] := by simp [IsSums, byteSum, weightedSum]
  have whole : IsSums (sums data) ([] ++ (Lib.blocks batchBytes data).flatten) :=
    foldl_batch_isSums (fun chunk member => (Lib.mem_blocks (by decide) member).2) start
  simpa [Lib.flatten_blocks (show 0 < batchBytes by decide)] using whole

theorem sums_eq_of_isSums {left right : UInt32 × UInt32} {data : Bytes}
    (leftExact : IsSums left data) (rightExact : IsSums right data) : left = right := by
  apply Prod.ext
  · exact UInt32.toNat_inj.mp (leftExact.1.trans rightExact.1.symm)
  · exact UInt32.toNat_inj.mp (leftExact.2.trans rightExact.2.symm)

/-- The `u64` arithmetic of `update` as exact arithmetic: nothing underflows,
because `MODULUS` is added before each subtraction. -/
theorem update_toNat (state : RollingChecksum) (old new : UInt8) (windowSize : UInt32) :
    (state.update old new windowSize).a.toNat =
        (state.a.toNat + 65521 + new.toNat - old.toNat) % 65521 ∧
      (state.update old new windowSize).b.toNat =
        (state.b.toNat + 65521 + (state.a.toNat + 65521 + new.toNat - old.toNat) % 65521 -
          windowSize.toNat * old.toNat % 65521) % 65521 := by
  have oldBound : old.toNat < 256 := old.toNat_lt
  have newBound : new.toNat < 256 := new.toNat_lt
  have aBound : state.a.toNat < 2 ^ 32 := state.a.toNat_lt
  have bBound : state.b.toNat < 2 ^ 32 := state.b.toNat_lt
  have product : windowSize.toNat % 65521 * (old.toNat % 65521) < 2 ^ 64 := by
    have left := Nat.mod_lt windowSize.toNat (by decide : 0 < 65521)
    have right := Nat.mod_lt old.toNat (by decide : 0 < 65521)
    calc windowSize.toNat % 65521 * (old.toNat % 65521) ≤ 65521 * 65521 :=
          Nat.mul_le_mul left.le right.le
      _ < 2 ^ 64 := by norm_num
  have reduced := Nat.mod_lt (windowSize.toNat * old.toNat) (by decide : 0 < 65521)
  have aNew : (state.a.toUInt64 + modulus.toUInt64 + new.toUInt64 - old.toUInt64).toNat =
      state.a.toNat + 65521 + new.toNat - old.toNat := by
    rw [UInt64.toNat_sub_of_le] <;>
      simp [UInt64.le_iff_toNat_le, UInt64.toNat_add] <;> omega
  have nOld : (windowSize.toUInt64 % modulus.toUInt64 * (old.toUInt64 % modulus.toUInt64) %
      modulus.toUInt64).toNat = windowSize.toNat * old.toNat % 65521 := by
    simp only [UInt64.toNat_mod, UInt64.toNat_mul, UInt32.toNat_toUInt64, UInt8.toNat_toUInt64,
      toNat_modulus, Nat.mod_eq_of_lt product, ← Nat.mul_mod]
  constructor
  · simp only [update, UInt64.toNat_toUInt32, UInt64.toNat_mod, aNew, UInt32.toNat_toUInt64,
      toNat_modulus]
    omega
  · have bNew : (state.b.toUInt64 + modulus.toUInt64 +
        (state.a.toUInt64 + modulus.toUInt64 + new.toUInt64 - old.toUInt64) % modulus.toUInt64 -
        windowSize.toUInt64 % modulus.toUInt64 * (old.toUInt64 % modulus.toUInt64) %
          modulus.toUInt64).toNat =
        state.b.toNat + 65521 + (state.a.toNat + 65521 + new.toNat - old.toNat) % 65521 -
          windowSize.toNat * old.toNat % 65521 := by
      rw [UInt64.toNat_sub_of_le]
      · rw [nOld]
        simp only [UInt64.toNat_add, UInt64.toNat_mod, aNew, UInt32.toNat_toUInt64, toNat_modulus]
        omega
      · rw [UInt64.le_iff_toNat_le, nOld]
        simp only [UInt64.toNat_add, UInt64.toNat_mod, aNew, UInt32.toNat_toUInt64, toNat_modulus]
        omega
    simp only [update, UInt64.toNat_toUInt32, UInt64.toNat_mod, bNew, UInt32.toNat_toUInt64,
      toNat_modulus]
    omega

/-- Sliding the window by one byte: drop `old` in front, take `new` at the end. -/
theorem update_isSums {state : RollingChecksum} {old new : UInt8} {kept : Bytes} {windowSize : UInt32}
    (valid : IsSums (state.a, state.b) (old :: kept)) (size : windowSize.toNat = kept.length + 1) :
    IsSums ((state.update old new windowSize).a, (state.update old new windowSize).b)
      (kept ++ [new]) := by
  obtain ⟨first, second⟩ := valid
  obtain ⟨aNew, bNew⟩ := update_toNat state old new windowSize
  have oldBound : old.toNat < 256 := old.toNat_lt
  simp only [byteSum, weightedSum] at first second
  have product : windowSize.toNat * old.toNat = (kept.length + 1) * old.toNat := by rw [size]
  constructor
  · simp only [aNew, first, byteSum_append, byteSum]
    omega
  · simp only [bNew, first, second, product, weightedSum_append, weightedSum,
      List.length_singleton, List.length_nil]
    omega

/-- A window and the one a byte further share all bytes but the outer two. -/
theorem window_slide {data : Bytes} {position size : Nat} (positive : 0 < size)
    (inside : position + 1 + size ≤ data.length) :
    ∃ kept : Bytes, kept.length + 1 = size ∧
      (data.drop position).take size = data.getD position 0 :: kept ∧
      (data.drop (position + 1)).take size = kept ++ [data.getD (position + size) 0] := by
  obtain ⟨previous, rfl⟩ : ∃ previous, size = previous + 1 := ⟨size - 1, by omega⟩
  have last : position + 1 + previous < data.length := by omega
  refine ⟨(data.drop (position + 1)).take previous, ?_, ?_, ?_⟩
  · simp only [List.length_take, List.length_drop]
    omega
  · rw [List.drop_eq_getElem_cons (show position < data.length by omega), List.take_succ_cons,
      List.getD_eq_getElem _ _ (by omega)]
  · rw [List.take_succ_eq_append_getElem (by simp only [List.length_drop]; omega),
      List.getElem_drop, List.getD_eq_getElem _ _ (by omega)]
    congr 3
    omega

/-- Sliding equals summing the new window from scratch. -/
theorem update_init (old new : UInt8) (kept : Bytes) {windowSize : UInt32}
    (size : windowSize.toNat = kept.length + 1) :
    (init (old :: kept)).update old new windowSize = init (kept ++ [new]) := by
  have summed : IsSums ((init (old :: kept)).a, (init (old :: kept)).b) (old :: kept) :=
    sums_exact (old :: kept)
  have slid := @update_isSums _ _ new _ _ summed size
  have same := sums_eq_of_isSums slid (sums_exact (kept ++ [new]))
  exact RollingChecksum.ext (congrArg Prod.fst same) (congrArg Prod.snd same)

end RollingChecksum

end Terrasync.SyncDelta
