import Terrasync.Lib.Scanner
import Terrasync.SyncDelta.Matcher
import Terrasync.SyncDelta.RollingProperties

/-! The matcher refines a scanner whose choices depend on the absolute position
and the bytes of a window only. The rolling state, the carry buffer and its
compaction are therefore invisible, and so are the chunks of the source. -/

set_option autoImplicit false

namespace Terrasync.SyncDelta

namespace DeltaMatcher

variable (blake3Truncated : Bytes → StrongHash)

/-- The choice for a window, from its bytes and its absolute position. -/
def choose (sigTable : SigTable) (signatures : List BlockSignature) (bs position : Nat)
    (window : Bytes) : Option UInt32 :=
  let rolling := (RollingChecksum.init window).digest
  match sigTable rolling with
  | none => none
  | some candidates =>
      let strong := blake3Truncated window
      (preferred signatures bs position rolling strong).or
        ((candidates.find? fun candidate => candidate.2.strong = strong).map Prod.fst)

/-- What survives between two windows: the absolute position of the next window
and the literal not yet emitted. -/
structure ScanState where
  position : Nat
  literal : Bytes

/-- Consume one window of the unread source. -/
def scanStep (sigTable : SigTable) (signatures : List BlockSignature) (bs : Nat) (state : ScanState)
    (unread : Bytes) : ScanState × List DeltaToken × Bytes :=
  match choose blake3Truncated sigTable signatures bs state.position (unread.take bs) with
  | some blockIndex =>
      (⟨state.position + bs, []⟩, flushLiteral state.literal ++ [.matchBlock blockIndex],
        unread.drop bs)
  | none =>
      let pushed := pushLiteral state.literal (unread.headD 0)
      (⟨state.position + 1, pushed.1⟩, pushed.2, unread.drop 1)

theorem scanStep_shrinks (sigTable : SigTable) (signatures : List BlockSignature) {bs : Nat}
    (state : ScanState) {unread : Bytes} (positive : 0 < bs) (available : bs ≤ unread.length) :
    (scanStep blake3Truncated sigTable signatures bs state unread).2.2.length < unread.length := by
  unfold scanStep
  split <;> simp only [List.length_drop] <;> omega

theorem scanStep_append (sigTable : SigTable) (signatures : List BlockSignature) {bs : Nat}
    (state : ScanState) {unread : Bytes} (more : Bytes) (positive : 0 < bs)
    (available : bs ≤ unread.length) :
    scanStep blake3Truncated sigTable signatures bs state (unread ++ more) =
      ((scanStep blake3Truncated sigTable signatures bs state unread).1,
        (scanStep blake3Truncated sigTable signatures bs state unread).2.1,
        (scanStep blake3Truncated sigTable signatures bs state unread).2.2 ++ more) := by
  have sameWindow : (unread ++ more).take bs = unread.take bs := List.take_append_of_le_length available
  have sameHead : (unread ++ more).headD 0 = unread.headD 0 := by
    cases unread with
    | nil => simp only [List.length_nil] at available; omega
    | cons head tail => rfl
  unfold scanStep
  rw [sameWindow, sameHead, List.drop_append_of_le_length available,
    List.drop_append_of_le_length (show 1 ≤ unread.length by omega)]
  split <;> rfl

/-- The abstract matcher: one window per step, as long as a whole one is unread. -/
def windowScanner (sigTable : SigTable) (signatures : List BlockSignature) (bs : Nat) :
    Lib.Scanner ScanState UInt8 DeltaToken where
  step state unread :=
    if 0 < bs ∧ bs ≤ unread.length then
      some (scanStep blake3Truncated sigTable signatures bs state unread)
    else none
  shrinks := by
    intro state unread next tokens rest stepped
    split at stepped
    · next available =>
        have shrinks := scanStep_shrinks blake3Truncated sigTable signatures state available.1 available.2
        rw [Option.some.inj stepped] at shrinks
        exact shrinks
    · cases stepped
  settled := by
    intro state unread next tokens rest stepped more
    split at stepped
    · next available =>
        rw [if_pos ⟨available.1, by rw [List.length_append]; omega⟩,
          scanStep_append blake3Truncated sigTable signatures state more available.1 available.2,
          Option.some.inj stepped]
    · cases stepped

/-- The scanner a matcher implements, by its immutable fields. -/
def scanner (matcher : DeltaMatcher) : Lib.Scanner ScanState UInt8 DeltaToken :=
  windowScanner blake3Truncated matcher.sigTable matcher.signatures matcher.bs

/-- The bytes `process` has not consumed. -/
def unread (matcher : DeltaMatcher) : Bytes := matcher.carry.drop matcher.pos

def scanState (matcher : DeltaMatcher) : ScanState :=
  ⟨matcher.consumed + matcher.pos, matcher.literalBuf⟩

/-- The rolling checksum, when declared valid, is that of the current window. -/
structure Valid (matcher : DeltaMatcher) : Prop where
  sized : matcher.bs < 2 ^ 32
  bounded : matcher.pos ≤ matcher.carry.length
  rolled : matcher.windowInit = true →
    matcher.pos + matcher.bs ≤ matcher.carry.length ∧ matcher.rc = .init matcher.window

theorem new_valid (signatures : List BlockSignature) (blockSize : UInt32) :
    (new signatures blockSize).Valid :=
  ⟨blockSize.toNat_lt, le_rfl, by simp [new]⟩

@[simp] theorem initWindow_window (matcher : DeltaMatcher) :
    matcher.initWindow.window = matcher.window := by
  unfold initWindow; split <;> rfl

theorem initWindow_rc {matcher : DeltaMatcher} (valid : matcher.Valid) :
    matcher.initWindow.rc = .init matcher.window := by
  unfold initWindow
  split
  · next initialised => exact (valid.rolled initialised).2
  · rfl

theorem selected_initWindow {matcher : DeltaMatcher} (valid : matcher.Valid) :
    matcher.initWindow.selected blake3Truncated =
      choose blake3Truncated matcher.sigTable matcher.signatures matcher.bs
        (matcher.consumed + matcher.pos) (matcher.unread.take matcher.bs) := by
  have fields : matcher.initWindow.sigTable = matcher.sigTable ∧
      matcher.initWindow.signatures = matcher.signatures ∧
      matcher.initWindow.consumed = matcher.consumed := by
    unfold initWindow; split <;> exact ⟨rfl, rfl, rfl⟩
  unfold selected choose
  rw [initWindow_rc valid, initWindow_window, fields.1, fields.2.1, fields.2.2, initWindow_bs,
    initWindow_pos]
  rfl

/-- The literal branch of `step` keeps the rolling checksum that of its window. -/
theorem stepLiteral_valid {matcher : DeltaMatcher} (valid : matcher.Valid)
    (positive : 0 < matcher.bs) (available : matcher.pos + matcher.bs ≤ matcher.carry.length) :
    matcher.initWindow.stepLiteral.1.Valid := by
  have rolled := initWindow_rc valid
  unfold stepLiteral slide
  simp only [initWindow_pos, initWindow_bs, initWindow_carry]
  split
  · next further =>
      refine ⟨by simpa using valid.sized, by simp; omega, fun _ => ⟨by simpa using further, ?_⟩⟩
      obtain ⟨kept, size, before, after⟩ := RollingChecksum.window_slide positive further
      have sized := valid.sized
      simp only [window] at rolled ⊢
      rw [rolled, before, after, Nat.add_sub_cancel,
        show matcher.pos + 1 + matcher.bs - 1 = matcher.pos + matcher.bs by omega]
      refine RollingChecksum.update_init _ _ kept ?_
      rw [UInt32.toNat_ofNat_of_lt' sized]
      omega
  · exact ⟨by simpa using valid.sized, by simp; omega, fun initialised => by simp at initialised⟩

/-- One iteration of the loop is one step of the scanner. -/
theorem step_refines {matcher : DeltaMatcher} (valid : matcher.Valid) (positive : 0 < matcher.bs)
    (available : matcher.pos + matcher.bs ≤ matcher.carry.length) :
    let stepped := matcher.step blake3Truncated
    stepped.1.Valid ∧ stepped.1.bs = matcher.bs ∧
      stepped.1.scanner blake3Truncated = matcher.scanner blake3Truncated ∧
      scanStep blake3Truncated matcher.sigTable matcher.signatures matcher.bs matcher.scanState
        matcher.unread = (stepped.1.scanState, stepped.2, stepped.1.unread) := by
  have chosen := selected_initWindow blake3Truncated valid
  have fields : matcher.initWindow.sigTable = matcher.sigTable ∧
      matcher.initWindow.signatures = matcher.signatures ∧
      matcher.initWindow.consumed = matcher.consumed ∧
      matcher.initWindow.literalBuf = matcher.literalBuf := by
    unfold initWindow; split <;> exact ⟨rfl, rfl, rfl, rfl⟩
  obtain ⟨sigTable, signatures, consumed, literalBuf⟩ := fields
  simp only [step]
  cases choice : matcher.initWindow.selected blake3Truncated with
  | some blockIndex =>
      rw [choice] at chosen
      refine ⟨⟨by simpa [stepMatch] using valid.sized, by simpa [stepMatch] using available,
        fun initialised => by simp [stepMatch] at initialised⟩, by simp [stepMatch], ?_, ?_⟩
      · simp [scanner, stepMatch, sigTable, signatures]
      · simp only [scanStep, scanState, ← chosen]
        simp only [stepMatch, unread, consumed, literalBuf, initWindow_pos, initWindow_bs,
          initWindow_carry, List.drop_drop, Nat.add_assoc]
  | none =>
      rw [choice] at chosen
      have head : matcher.unread.headD 0 = matcher.carry.getD matcher.pos 0 := by
        unfold unread
        rw [List.drop_eq_getElem_cons (by omega), List.getD_eq_getElem _ _ (by omega)]
        rfl
      have slid : ∀ other : DeltaMatcher, other.slide.bs = other.bs ∧
          other.slide.sigTable = other.sigTable ∧ other.slide.signatures = other.signatures ∧
          other.slide.consumed = other.consumed ∧ other.slide.literalBuf = other.literalBuf := by
        intro other
        unfold slide; split <;> exact ⟨rfl, rfl, rfl, rfl, rfl⟩
      refine ⟨stepLiteral_valid valid positive available, by simp [stepLiteral, slid], ?_, ?_⟩
      · simp [scanner, stepLiteral, slid, sigTable, signatures]
      · simp only [scanStep, scanState, ← chosen, head]
        simp only [stepLiteral, slid, slide_carry, slide_pos, unread, consumed, literalBuf,
          initWindow_pos, initWindow_carry, List.drop_drop, Nat.add_assoc]

/-- `process` runs the scanner on the unread bytes until it waits. -/
theorem process_refines {matcher : DeltaMatcher} (valid : matcher.Valid) :
    let processed := matcher.process blake3Truncated
    processed.1.Valid ∧ processed.1.bs = matcher.bs ∧
      processed.1.scanner blake3Truncated = matcher.scanner blake3Truncated ∧
      (matcher.scanner blake3Truncated).run matcher.scanState matcher.unread =
        (processed.1.scanState, processed.2, processed.1.unread) := by
  induction matcher using process.induct blake3Truncated with
  | case1 matcher ready stepped ih =>
      obtain ⟨stepValid, stepBs, stepScanner, stepOutput⟩ :=
        step_refines blake3Truncated valid ready.1 ready.2
      obtain ⟨restValid, restBs, restScanner, restOutput⟩ := ih stepValid
      rw [process, dif_pos ready]
      refine ⟨restValid, restBs.trans stepBs, restScanner.trans stepScanner, ?_⟩
      have whole : 0 < matcher.bs ∧ matcher.bs ≤ matcher.unread.length := by
        refine ⟨ready.1, ?_⟩
        simp only [unread, List.length_drop]
        omega
      rw [Lib.Scanner.run_of_some (show (matcher.scanner blake3Truncated).step _ _ = some _ from
        (if_pos whole).trans (congrArg some stepOutput)), ← stepScanner, restOutput]
  | case2 matcher waiting =>
      rw [process, dif_neg waiting]
      refine ⟨valid, rfl, rfl, Lib.Scanner.run_of_none (if_neg ?_)⟩
      intro whole
      have bounded := valid.bounded
      simp only [unread, List.length_drop] at whole
      exact waiting ⟨whole.1, by omega⟩

theorem compact_refines {matcher : DeltaMatcher} (valid : matcher.Valid)
    (cold : matcher.windowInit = false) :
    matcher.compact.Valid ∧ matcher.compact.bs = matcher.bs ∧
      matcher.compact.scanner blake3Truncated = matcher.scanner blake3Truncated ∧
      matcher.compact.scanState = matcher.scanState ∧ matcher.compact.unread = matcher.unread := by
  unfold compact
  split
  · exact ⟨⟨valid.sized, Nat.zero_le _, fun hot => by simp [cold] at hot⟩, rfl, rfl, rfl, rfl⟩
  · exact ⟨valid, rfl, rfl, rfl, rfl⟩

/-- Between pushes no rolling checksum is at hand. -/
theorem process_windowInit {matcher : DeltaMatcher} (valid : matcher.Valid) (positive : 0 < matcher.bs) :
    (matcher.process blake3Truncated).1.windowInit = false := by
  induction matcher using process.induct blake3Truncated with
  | case1 matcher ready stepped ih =>
      obtain ⟨stepValid, stepBs, -, -⟩ := step_refines blake3Truncated valid ready.1 ready.2
      rw [process, dif_pos ready]
      exact ih stepValid (by rw [stepBs]; exact positive)
  | case2 matcher waiting =>
      rw [process, dif_neg waiting]
      by_contra hot
      exact waiting ⟨positive, (valid.rolled (by simpa using hot)).1⟩

/-- The scanner paused between two pushes. -/
def paused (matcher : DeltaMatcher) : Lib.Scanner.Paused ScanState UInt8 :=
  ⟨matcher.scanState, matcher.unread⟩

/-- `push` is a push of the scanner, for a positive block size. -/
theorem push_refines {matcher : DeltaMatcher} (bytes : Bytes) (valid : matcher.Valid)
    (positive : 0 < matcher.bs) (cold : matcher.windowInit = false) :
    let pushed := matcher.push blake3Truncated bytes
    pushed.1.Valid ∧ pushed.1.bs = matcher.bs ∧ pushed.1.windowInit = false ∧
      pushed.1.scanner blake3Truncated = matcher.scanner blake3Truncated ∧
      (matcher.scanner blake3Truncated).push matcher.paused bytes = (pushed.1.paused, pushed.2) := by
  have appended : (matcher.extend bytes).Valid := by
    have bounded := valid.bounded
    refine ⟨valid.sized, ?_, fun hot => by simp [extend, cold] at hot⟩
    simp only [extend, List.length_append]
    omega
  obtain ⟨processValid, processBs, processScanner, processOutput⟩ :=
    process_refines blake3Truncated appended
  have processCold := process_windowInit blake3Truncated appended positive
  obtain ⟨compactValid, compactBs, compactScanner, compactState, compactUnread⟩ :=
    compact_refines blake3Truncated processValid processCold
  have unreadAppend : (matcher.extend bytes).unread = matcher.unread ++ bytes :=
    List.drop_append_of_le_length valid.bounded
  unfold push
  rw [if_neg (by omega)]
  refine ⟨compactValid, compactBs.trans processBs, ?_, compactScanner.trans processScanner, ?_⟩
  · simp only [compact]
    split <;> exact processCold
  · rw [unreadAppend] at processOutput
    have ran : (matcher.scanner blake3Truncated).run matcher.scanState (matcher.unread ++ bytes) = _ :=
      processOutput
    simp only [paused, Lib.Scanner.push, ran, compactState, compactUnread]

/-- Successive pushes feed the scanner. -/
theorem pushAll_refines {matcher : DeltaMatcher} (chunks : List Bytes) (valid : matcher.Valid)
    (positive : 0 < matcher.bs) (cold : matcher.windowInit = false) :
    let pushed := matcher.pushAll blake3Truncated chunks
    pushed.1.Valid ∧ pushed.1.bs = matcher.bs ∧
      pushed.1.scanner blake3Truncated = matcher.scanner blake3Truncated ∧
      (matcher.scanner blake3Truncated).feed matcher.paused chunks = (pushed.1.paused, pushed.2) := by
  induction chunks generalizing matcher with
  | nil => exact ⟨valid, rfl, rfl, rfl⟩
  | cons chunk rest ih =>
      obtain ⟨pushValid, pushBs, pushCold, pushScanner, pushOutput⟩ :=
        push_refines blake3Truncated chunk valid positive cold
      obtain ⟨restValid, restBs, restScanner, restOutput⟩ :=
        ih pushValid (by rw [pushBs]; exact positive) pushCold
      rw [pushScanner] at restOutput
      refine ⟨restValid, restBs.trans pushBs, restScanner.trans pushScanner, ?_⟩
      simp only [Lib.Scanner.feed, pushOutput, restOutput]
      rfl

/-- The tokens `finish` adds, from the paused scanner. -/
def finishTokens (scanner : Lib.Scanner ScanState UInt8 DeltaToken)
    (paused : Lib.Scanner.Paused ScanState UInt8) : List DeltaToken :=
  let ran := scanner.run paused.state paused.unread
  ran.2.1 ++ (Lib.blocks literalLimit (ran.1.literal ++ ran.2.2)).map .data

theorem finish_refines {matcher : DeltaMatcher} (valid : matcher.Valid) (positive : 0 < matcher.bs) :
    matcher.finish blake3Truncated =
      finishTokens (matcher.scanner blake3Truncated) matcher.paused := by
  obtain ⟨-, -, -, output⟩ := process_refines blake3Truncated valid
  have ran : (matcher.scanner blake3Truncated).run matcher.paused.state matcher.paused.unread = _ := output
  unfold finish finishTokens
  rw [if_neg (by omega), ran]
  rfl

/-- A zero block size only collects the source. -/
theorem pushAll_of_zero {matcher : DeltaMatcher} (chunks : List Bytes) (zero : matcher.bs = 0) :
    matcher.pushAll blake3Truncated chunks =
      ({ matcher with literalBuf := matcher.literalBuf ++ chunks.flatten }, []) := by
  induction chunks generalizing matcher with
  | nil => simp [pushAll]
  | cons chunk rest ih =>
      have restOutput := @ih { matcher with literalBuf := matcher.literalBuf ++ chunk } zero
      simp only [pushAll, push, if_pos zero, restOutput, List.flatten_cons, List.append_assoc,
        List.nil_append]

/-- The whole token sequence, as one run of the scanner over the source. -/
theorem tokens_eq_scan (signatures : List BlockSignature) {blockSize : UInt32} (chunks : List Bytes)
    (positive : blockSize ≠ 0) :
    deltaMatchChunks blake3Truncated chunks signatures blockSize =
      let ran := ((new signatures blockSize).scanner blake3Truncated).run ⟨0, []⟩ chunks.flatten
      ran.2.1 ++ (Lib.blocks literalLimit (ran.1.literal ++ ran.2.2)).map .data := by
  have size : 0 < (new signatures blockSize).bs := by
    have nonzero : blockSize.toNat ≠ 0 := fun zero => positive (UInt32.toNat_inj.mp zero)
    exact Nat.pos_of_ne_zero nonzero
  have waiting : ((new signatures blockSize).scanner blake3Truncated).Waiting ⟨⟨0, []⟩, []⟩ := by
    refine if_neg ?_
    simp only [List.length_nil]
    omega
  obtain ⟨valid, pushedSize, pushedScanner, pushedOutput⟩ :=
    pushAll_refines blake3Truncated chunks (new_valid signatures blockSize) size rfl
  have fed := pushedOutput.symm.trans (Lib.Scanner.feed_eq_push_flatten waiting chunks)
  have finished := finish_refines blake3Truncated valid (by rw [pushedSize]; exact size)
  simp only [Lib.Scanner.push, List.nil_append, Prod.mk.injEq] at fed
  simp only [deltaMatchChunks]
  rw [finished, pushedScanner, fed.1, fed.2, finishTokens,
    Lib.Scanner.run_of_none (Lib.Scanner.run_waits _ _)]
  rfl

theorem tokens_of_zero (signatures : List BlockSignature) (chunks : List Bytes) :
    deltaMatchChunks blake3Truncated chunks signatures 0 =
      (Lib.blocks literalLimit chunks.flatten).map .data := by
  unfold deltaMatchChunks
  rw [pushAll_of_zero blake3Truncated chunks rfl]
  simp [finish, new]

end DeltaMatcher

open DeltaMatcher in
/-- The streaming matcher and the whole-file matcher emit the same tokens. -/
theorem deltaMatchChunks_eq_deltaMatch (blake3Truncated : Bytes → StrongHash) (chunks : List Bytes)
    (signatures : List BlockSignature) (blockSize : UInt32) :
    deltaMatchChunks blake3Truncated chunks signatures blockSize =
      deltaMatch blake3Truncated chunks.flatten signatures blockSize := by
  have whole : deltaMatch blake3Truncated chunks.flatten signatures blockSize =
      deltaMatchChunks blake3Truncated [chunks.flatten] signatures blockSize := by
    simp [deltaMatch, deltaMatchChunks, pushAll]
  rw [whole]
  by_cases zero : blockSize = 0
  · rw [zero, tokens_of_zero, tokens_of_zero, List.flatten_singleton]
  · rw [tokens_eq_scan _ _ _ zero, tokens_eq_scan _ _ _ zero, List.flatten_singleton]

end Terrasync.SyncDelta
