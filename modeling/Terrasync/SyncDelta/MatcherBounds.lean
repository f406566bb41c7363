import Terrasync.SyncDelta.Matcher

/-! What the matcher keeps and emits, by size. Between two pushes less than one
block is carried and less than one literal limit is pending; every source byte is
in a literal token, in a block reference, or in one of the two buffers. -/

set_option autoImplicit false

namespace Terrasync.SyncDelta

/-- The source bytes a token stands for. -/
def DeltaToken.sourceBytes (bs : Nat) : DeltaToken → Nat
  | .data bytes => bytes.length
  | .matchBlock _ => bs

def sourceBytes (bs : Nat) (tokens : List DeltaToken) : Nat := (tokens.map (DeltaToken.sourceBytes bs)).sum

/-- Every literal token is non-empty and within the limit. -/
def BoundedLiterals (tokens : List DeltaToken) : Prop :=
  ∀ bytes, DeltaToken.data bytes ∈ tokens → bytes ≠ [] ∧ bytes.length ≤ literalLimit

@[simp] theorem sourceBytes_nil (bs : Nat) : sourceBytes bs [] = 0 := rfl

@[simp] theorem sourceBytes_append (bs : Nat) (front back : List DeltaToken) :
    sourceBytes bs (front ++ back) = sourceBytes bs front + sourceBytes bs back := by
  simp only [sourceBytes, List.map_append, List.sum_append]

theorem boundedLiterals_nil : BoundedLiterals [] := fun _ member => absurd member List.not_mem_nil

theorem BoundedLiterals.append {front back : List DeltaToken} (first : BoundedLiterals front)
    (second : BoundedLiterals back) : BoundedLiterals (front ++ back) := by
  intro bytes member
  rcases List.mem_append.mp member with earlier | later
  · exact first bytes earlier
  · exact second bytes later

theorem sourceBytes_blocks (bs : Nat) (literal : Bytes) :
    sourceBytes bs ((Lib.blocks literalLimit literal).map .data) = literal.length := by
  have lengths : ((Lib.blocks literalLimit literal).map List.length).sum = literal.length := by
    rw [← List.length_flatten, Lib.flatten_blocks (by decide)]
  rw [← lengths, sourceBytes, List.map_map]
  rfl

theorem boundedLiterals_blocks (literal : Bytes) :
    BoundedLiterals ((Lib.blocks literalLimit literal).map .data) := by
  intro bytes member
  obtain ⟨block, cut, same⟩ := List.mem_map.mp member
  cases same
  exact Lib.mem_blocks (by decide) cut

namespace DeltaMatcher

/-! ### The literal buffer -/

theorem literalLimit_pos : 0 < literalLimit := by decide

theorem flushLiteral_sourceBytes (bs : Nat) (literal : Bytes) :
    sourceBytes bs (flushLiteral literal) = literal.length := by
  cases literal <;> rfl

theorem flushLiteral_bounded {literal : Bytes} (pending : literal.length < literalLimit) :
    BoundedLiterals (flushLiteral literal) := by
  intro bytes member
  unfold flushLiteral at member
  split at member
  · exact absurd member List.not_mem_nil
  · next nonempty =>
      cases List.mem_singleton.mp member
      exact ⟨by simpa using nonempty, Nat.le_of_lt pending⟩

/-- One more literal byte is either pending or, at the limit, part of a full token. -/
theorem pushLiteral_spec (bs : Nat) {literal : Bytes} (byte : UInt8)
    (pending : literal.length < literalLimit) :
    (pushLiteral literal byte).1.length < literalLimit ∧
      BoundedLiterals (pushLiteral literal byte).2 ∧
      literal.length + 1 =
        sourceBytes bs (pushLiteral literal byte).2 + (pushLiteral literal byte).1.length := by
  unfold pushLiteral
  rw [List.length_append, List.length_singleton]
  split
  · refine ⟨literalLimit_pos, fun bytes member => ?_, ?_⟩
    · cases List.mem_singleton.mp member
      rw [List.length_append, List.length_singleton]
      exact ⟨List.append_ne_nil_of_right_ne_nil _ (List.cons_ne_nil _ _), pending⟩
    · simp [sourceBytes, DeltaToken.sourceBytes]
  · next short =>
      refine ⟨by rw [List.length_append, List.length_singleton]; omega, boundedLiterals_nil, ?_⟩
      rw [sourceBytes_nil, List.length_append, List.length_singleton, Nat.zero_add]

/-! ### The loop -/

variable (blake3Truncated : Bytes → StrongHash)

/-- What a part of `process` does to the buffers: it advances over the bytes that its
tokens and the change of the pending literal account for. -/
structure Advances (before after : DeltaMatcher) (tokens : List DeltaToken) : Prop where
  blockSize : after.bs = before.bs
  carry : after.carry = before.carry
  inside : after.pos ≤ before.carry.length
  pending : after.literalBuf.length < literalLimit
  bounded : BoundedLiterals tokens
  counted : after.pos + before.literalBuf.length =
    before.pos + sourceBytes before.bs tokens + after.literalBuf.length

theorem Advances.refl {matcher : DeltaMatcher} (inside : matcher.pos ≤ matcher.carry.length)
    (pending : matcher.literalBuf.length < literalLimit) : Advances matcher matcher [] :=
  ⟨rfl, rfl, inside, pending, boundedLiterals_nil, rfl⟩

theorem Advances.trans {first second third : DeltaMatcher} {tokens later : List DeltaToken}
    (here : Advances first second tokens) (there : Advances second third later) :
    Advances first third (tokens ++ later) where
  blockSize := there.blockSize.trans here.blockSize
  carry := there.carry.trans here.carry
  inside := here.carry ▸ there.inside
  pending := there.pending
  bounded := here.bounded.append there.bounded
  counted := by
    have before := here.counted
    have after := there.counted
    rw [here.blockSize] at after
    rw [sourceBytes_append]
    omega

theorem initWindow_literalBuf (matcher : DeltaMatcher) :
    matcher.initWindow.literalBuf = matcher.literalBuf := by
  unfold initWindow; split <;> rfl

theorem slide_keeps (matcher : DeltaMatcher) :
    matcher.slide.bs = matcher.bs ∧ matcher.slide.literalBuf = matcher.literalBuf := by
  unfold slide; split <;> exact ⟨rfl, rfl⟩

theorem step_advances {matcher : DeltaMatcher} (positive : 0 < matcher.bs)
    (available : matcher.pos + matcher.bs ≤ matcher.carry.length)
    (pending : matcher.literalBuf.length < literalLimit) :
    Advances matcher (matcher.step blake3Truncated).1 (matcher.step blake3Truncated).2 := by
  simp only [step]
  split
  · next blockIndex _ =>
      refine ⟨initWindow_bs matcher, initWindow_carry matcher, ?_, literalLimit_pos, ?_, ?_⟩
      · simpa only [stepMatch, initWindow_pos, initWindow_bs] using available
      · refine (flushLiteral_bounded ?_).append fun bytes member => ?_
        · rw [initWindow_literalBuf]
          exact pending
        · exact absurd (List.mem_singleton.mp member) (by simp)
      · simp only [stepMatch, initWindow_pos, initWindow_bs, initWindow_literalBuf, sourceBytes_append,
          flushLiteral_sourceBytes]
        simp only [sourceBytes, DeltaToken.sourceBytes, List.map_cons, List.map_nil, List.sum_cons,
          List.sum_nil, List.length_nil]
        omega
  · obtain ⟨short, bounded, counted⟩ :=
      pushLiteral_spec matcher.bs (matcher.carry.getD matcher.pos 0) pending
    refine ⟨?_, ?_, ?_, ?_, ?_, ?_⟩
    · simp only [stepLiteral, slide_keeps, initWindow_bs]
    · simp only [stepLiteral, slide_carry, initWindow_carry]
    · simp only [stepLiteral, slide_pos, initWindow_pos]
      omega
    · simpa only [stepLiteral, slide_keeps, initWindow_literalBuf, initWindow_carry, initWindow_pos]
        using short
    · simpa only [stepLiteral, initWindow_literalBuf, initWindow_carry, initWindow_pos] using bounded
    · simp only [stepLiteral, slide_keeps, slide_pos, initWindow_literalBuf, initWindow_carry,
        initWindow_pos]
      omega

/-- `process` stops with less than a block unread. -/
theorem process_advances {matcher : DeltaMatcher} (positive : 0 < matcher.bs)
    (inside : matcher.pos ≤ matcher.carry.length)
    (pending : matcher.literalBuf.length < literalLimit) :
    Advances matcher (matcher.process blake3Truncated).1 (matcher.process blake3Truncated).2 ∧
      matcher.carry.length < (matcher.process blake3Truncated).1.pos + matcher.bs := by
  induction matcher using process.induct blake3Truncated with
  | case1 matcher ready stepped ih =>
      have stepAdvances := step_advances blake3Truncated ready.1 ready.2 pending
      obtain ⟨rest, waiting⟩ := ih (by rw [stepAdvances.blockSize]; exact positive)
        (by rw [stepAdvances.carry]; exact stepAdvances.inside) stepAdvances.pending
      rw [stepAdvances.carry, stepAdvances.blockSize] at waiting
      rw [process, dif_pos ready]
      exact ⟨stepAdvances.trans rest, waiting⟩
  | case2 matcher waiting =>
      rw [process, dif_neg waiting]
      refine ⟨.refl inside pending, ?_⟩
      have short : ¬ matcher.pos + matcher.bs ≤ matcher.carry.length := fun ready => waiting ⟨positive, ready⟩
      exact Nat.lt_of_not_le short

/-! ### Pushes -/

/-- The buffers between two pushes. -/
structure Staged (matcher : DeltaMatcher) : Prop where
  start : matcher.pos = 0
  carried : matcher.carry.length < matcher.bs
  pending : matcher.literalBuf.length < literalLimit

theorem compact_spec (matcher : DeltaMatcher) :
    matcher.compact.pos = 0 ∧ matcher.compact.carry.length = matcher.carry.length - matcher.pos ∧
      matcher.compact.bs = matcher.bs ∧ matcher.compact.literalBuf = matcher.literalBuf := by
  unfold compact
  split
  · exact ⟨rfl, List.length_drop, rfl, rfl⟩
  · next unmoved =>
      have start := Nat.eq_zero_of_not_pos unmoved
      exact ⟨start, by rw [start, Nat.sub_zero], rfl, rfl⟩

theorem push_staged {matcher : DeltaMatcher} (staged : matcher.Staged) (bytes : Bytes) :
    let pushed := matcher.push blake3Truncated bytes
    pushed.1.Staged ∧ pushed.1.bs = matcher.bs ∧ BoundedLiterals pushed.2 ∧
      bytes.length + matcher.literalBuf.length + matcher.carry.length =
        sourceBytes matcher.bs pushed.2 + pushed.1.literalBuf.length + pushed.1.carry.length := by
  have positive : 0 < matcher.bs := Nat.zero_lt_of_lt staged.carried
  have start : (matcher.extend bytes).pos = 0 := staged.start
  have whole : (matcher.extend bytes).carry.length = matcher.carry.length + bytes.length :=
    List.length_append
  obtain ⟨advances, waiting⟩ := @process_advances blake3Truncated (matcher.extend bytes) positive
    (by rw [start]; exact Nat.zero_le _) staged.pending
  have inside := advances.inside
  have counted := advances.counted
  rw [start, show (matcher.extend bytes).bs = matcher.bs from rfl,
    show (matcher.extend bytes).literalBuf = matcher.literalBuf from rfl] at counted
  have size : _ = matcher.bs := advances.blockSize
  have short : (matcher.extend bytes).carry.length < _ + matcher.bs := waiting
  unfold push
  rw [if_neg (Nat.ne_of_gt positive)]
  obtain ⟨compactPos, compactCarry, compactSize, compactLiteral⟩ :=
    compact_spec ((matcher.extend bytes).process blake3Truncated).1
  rw [advances.carry] at compactCarry
  refine ⟨⟨compactPos, ?_, ?_⟩, compactSize.trans size, advances.bounded, ?_⟩
  · rw [compactCarry, compactSize, size]
    omega
  · rw [compactLiteral]
    exact advances.pending
  · dsimp only
    rw [compactCarry, compactLiteral]
    omega

theorem pushAll_staged {matcher : DeltaMatcher} (staged : matcher.Staged) (chunks : List Bytes) :
    let pushed := matcher.pushAll blake3Truncated chunks
    pushed.1.Staged ∧ pushed.1.bs = matcher.bs ∧ BoundedLiterals pushed.2 ∧
      chunks.flatten.length + matcher.literalBuf.length + matcher.carry.length =
        sourceBytes matcher.bs pushed.2 + pushed.1.literalBuf.length + pushed.1.carry.length := by
  induction chunks generalizing matcher with
  | nil =>
      refine ⟨staged, rfl, boundedLiterals_nil, ?_⟩
      simp only [pushAll, List.flatten_nil, List.length_nil, sourceBytes_nil]
  | cons chunk rest ih =>
      obtain ⟨pushStaged, pushSize, pushBounded, pushCounted⟩ := push_staged blake3Truncated staged chunk
      obtain ⟨restStaged, restSize, restBounded, restCounted⟩ := ih pushStaged
      refine ⟨restStaged, restSize.trans pushSize, pushBounded.append restBounded, ?_⟩
      rw [pushSize] at restCounted
      simp only [pushAll, List.flatten_cons, List.length_append, sourceBytes_append]
      omega

theorem finish_staged {matcher : DeltaMatcher} (staged : matcher.Staged) :
    BoundedLiterals (matcher.finish blake3Truncated) ∧
      sourceBytes matcher.bs (matcher.finish blake3Truncated) =
        matcher.literalBuf.length + matcher.carry.length := by
  have start := staged.start
  have positive : 0 < matcher.bs := Nat.zero_lt_of_lt staged.carried
  obtain ⟨advances, -⟩ := process_advances blake3Truncated positive
    (by rw [start]; exact Nat.zero_le _) staged.pending
  have inside := advances.inside
  have counted := advances.counted
  unfold finish
  rw [if_neg (by omega)]
  refine ⟨advances.bounded.append (boundedLiterals_blocks _), ?_⟩
  rw [sourceBytes_append, sourceBytes_blocks, List.length_append, List.length_drop, advances.carry]
  omega

/-- After any pushes less than a block is carried and less than the literal limit is
pending, every literal token is non-empty and within the limit, and no source byte is
lost or doubled, before `finish` and after it. -/
theorem buffers_bounded (signatures : List BlockSignature) (blockSize : UInt32) (positive : 1 ≤ blockSize)
    (chunks : List Bytes) :
    let bs := blockSize.toNat
    let pushed := (new signatures blockSize).pushAll blake3Truncated chunks
    let finished := pushed.1.finish blake3Truncated
    (pushed.1.carry.length < bs ∧ pushed.1.pos = 0 ∧ pushed.1.literalBuf.length < 1024 * 1024) ∧
      (∀ bytes, DeltaToken.data bytes ∈ pushed.2 ++ finished → bytes ≠ [] ∧ bytes.length ≤ 1024 * 1024) ∧
      chunks.flatten.length =
        sourceBytes bs pushed.2 + pushed.1.literalBuf.length + pushed.1.carry.length ∧
      chunks.flatten.length = sourceBytes bs (pushed.2 ++ finished) := by
  have size : 0 < blockSize.toNat := UInt32.le_iff_toNat_le.mp positive
  have fresh : (new signatures blockSize).Staged := ⟨rfl, size, literalLimit_pos⟩
  obtain ⟨staged, sameSize, bounded, counted⟩ := pushAll_staged blake3Truncated fresh chunks
  obtain ⟨finishBounded, finishCounted⟩ := finish_staged blake3Truncated staged
  have carried := staged.carried
  rw [sameSize] at carried finishCounted
  simp only [new, List.length_nil, Nat.add_zero] at counted carried finishCounted
  refine ⟨⟨carried, staged.start, staged.pending⟩, bounded.append finishBounded, counted, ?_⟩
  rw [sourceBytes_append]
  simp only [new]
  omega

/-- Five bytes pushed in two chunks against no signatures. -/
theorem buffers_bounded_two_pushes :
    let pushed := (new [] 2).pushAll (fun _ => Vector.replicate 16 0) [[97, 98, 99], [100, 101]]
    let finished := pushed.1.finish fun _ => Vector.replicate 16 0
    (pushed.1.carry.length < 2 ∧ pushed.1.pos = 0 ∧ pushed.1.literalBuf.length < 1024 * 1024) ∧
      (∀ bytes, DeltaToken.data bytes ∈ pushed.2 ++ finished → bytes ≠ [] ∧ bytes.length ≤ 1024 * 1024) ∧
      5 = sourceBytes 2 pushed.2 + pushed.1.literalBuf.length + pushed.1.carry.length ∧
      5 = sourceBytes 2 (pushed.2 ++ finished) :=
  buffers_bounded (fun _ => Vector.replicate 16 0) [] 2 (by decide) [[97, 98, 99], [100, 101]]

end DeltaMatcher

end Terrasync.SyncDelta
