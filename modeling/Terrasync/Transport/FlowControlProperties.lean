import Terrasync.Transport.FlowControl

/-! Credit is conserved on a link, and the delayed grant decides which message
sizes never stall: the receiver may keep one byte less than its threshold. -/

set_option autoImplicit false

namespace Terrasync.Transport

theorem validateWindow_ok {windowBytes : Nat} (positive : 1 ≤ windowBytes)
    (limited : windowBytes ≤ maxCreditWindowBytes) : validateWindow windowBytes = .ok () := by
  have invalid : ¬(windowBytes = 0 ∨ maxCreditWindowBytes < windowBytes) := by omega
  rw [validateWindow, if_neg invalid]

theorem threshold_pos (windowBytes : Nat) : 0 < ReceiverCreditState.threshold windowBytes := by
  unfold ReceiverCreditState.threshold
  omega

theorem threshold_le {windowBytes : Nat} (positive : 1 ≤ windowBytes) :
    ReceiverCreditState.threshold windowBytes ≤ windowBytes := by
  unfold ReceiverCreditState.threshold
  omega

/-- What `recordAccepted` can do: fail on overflow, keep the bytes, or grant all. -/
theorem recordAccepted_cases {state next : ReceiverCreditState} {bytes : Nat}
    {outcome : ReceiverCreditOutcome} (recorded : state.recordAccepted bytes = .ok (next, outcome)) :
    (outcome = .pending ∧ next = { state with acceptedPending := state.acceptedPending + bytes } ∧
        state.acceptedPending + bytes < state.grantThreshold) ∨
      (outcome = .grant (state.acceptedPending + bytes) ∧ next = { state with acceptedPending := 0 }) := by
  simp only [ReceiverCreditState.recordAccepted] at recorded
  split at recorded
  · cases recorded
  · split at recorded
    · next short =>
        cases recorded
        exact .inl ⟨rfl, rfl, short⟩
    · cases recorded
      exact .inr ⟨rfl, rfl⟩

theorem acquire_acquired {ledger next : SenderCreditLedger} {bytes : Nat}
    (acquired : ledger.acquire bytes = .acquired next) :
    bytes ≤ ledger.available ∧ next = { ledger with available := ledger.available - bytes } := by
  simp only [SenderCreditLedger.acquire] at acquired
  split at acquired
  · cases acquired
  · split at acquired
    · cases acquired
    · split at acquired
      · next enough =>
          cases acquired
          exact ⟨enough, rfl⟩
      · cases acquired

theorem acquire_of_le {ledger : SenderCreditLedger} {bytes : Nat} (fits : bytes ≤ ledger.capacity)
    (opened : ledger.closed = false) (enough : bytes ≤ ledger.available) :
    ledger.acquire bytes = .acquired { ledger with available := ledger.available - bytes } := by
  simp [SenderCreditLedger.acquire, Nat.not_lt.mpr fits, opened, enough]

namespace CreditLink

/-- No byte of the window is lost: it is available, in flight, kept by the
receiver, or on its way back. -/
structure Conserved (windowBytes : Nat) (link : CreditLink) : Prop where
  capacity : link.sender.capacity = windowBytes
  opened : link.sender.closed = false
  threshold : link.receiver.grantThreshold = ReceiverCreditState.threshold windowBytes
  kept : link.receiver.acceptedPending < link.receiver.grantThreshold
  balance : link.sender.available + link.inFlight.sum + link.receiver.acceptedPending +
    link.grants.sum = windowBytes

theorem new_eq {windowBytes : Nat} (positive : 1 ≤ windowBytes)
    (limited : windowBytes ≤ maxCreditWindowBytes) :
    CreditLink.new windowBytes =
      .ok ⟨⟨windowBytes, windowBytes, false⟩, ⟨ReceiverCreditState.threshold windowBytes, 0⟩, [], []⟩ := by
  simp [CreditLink.new, SenderCreditLedger.new, ReceiverCreditState.new,
    validateWindow_ok positive limited, bind, Except.bind, pure, Except.pure]

theorem new_conserved (windowBytes : Nat) :
    Conserved windowBytes
      ⟨⟨windowBytes, windowBytes, false⟩, ⟨ReceiverCreditState.threshold windowBytes, 0⟩, [], []⟩ :=
  ⟨rfl, rfl, rfl, threshold_pos windowBytes, by simp⟩

theorem send_conserved {windowBytes cost : Nat} {link : CreditLink} {sender : SenderCreditLedger}
    (conserved : Conserved windowBytes link) (acquired : link.sender.acquire cost = .acquired sender) :
    Conserved windowBytes { link with sender, inFlight := link.inFlight ++ [cost] } := by
  obtain ⟨capacity, opened, threshold, kept, balance⟩ := conserved
  obtain ⟨enough, rfl⟩ := acquire_acquired acquired
  refine ⟨capacity, opened, threshold, kept, ?_⟩
  simp only [List.sum_append, List.sum_singleton]
  omega

theorem apply_conserved {windowBytes bytes : Nat} {link : CreditLink} {grants : List Nat}
    (conserved : Conserved windowBytes link) (pending : link.grants = bytes :: grants) :
    Conserved windowBytes { link with sender := (link.sender.grant bytes).1, grants } := by
  obtain ⟨capacity, opened, threshold, kept, balance⟩ := conserved
  rw [pending, List.sum_cons] at balance
  refine ⟨capacity, opened, threshold, kept, ?_⟩
  simp only [SenderCreditLedger.grant, capacity]
  omega

theorem step_conserved {windowBytes : Nat} {link next : CreditLink} {action : CreditAction}
    (conserved : Conserved windowBytes link) (stepped : link.step action = some next) :
    Conserved windowBytes next := by
  cases action with
  | send cost =>
      simp only [step] at stepped
      split at stepped
      · next sender acquired =>
          cases stepped
          exact send_conserved conserved acquired
      · cases stepped
      · cases stepped
  | record =>
      obtain ⟨capacity, opened, threshold, kept, balance⟩ := conserved
      simp only [step] at stepped
      split at stepped
      · cases stepped
      · next cost inFlight sent =>
          rw [sent, List.sum_cons] at balance
          split at stepped
          · next receiver recorded =>
              cases stepped
              rcases recordAccepted_cases recorded with ⟨-, rfl, short⟩ | ⟨contrary, -⟩
              · exact ⟨capacity, opened, threshold, short, by simp only; omega⟩
              · cases contrary
          · next receiver bytes recorded =>
              cases stepped
              rcases recordAccepted_cases recorded with ⟨contrary, -⟩ | ⟨granted, rfl⟩
              · cases contrary
              · cases granted
                refine ⟨capacity, opened, threshold, ?_, ?_⟩
                · simp only [threshold]
                  exact threshold_pos windowBytes
                · simp only [List.sum_append, List.sum_singleton]
                  omega
          · cases stepped
  | apply =>
      simp only [step] at stepped
      split at stepped
      · cases stepped
      · next bytes grants issued =>
          cases stepped
          exact apply_conserved conserved issued

theorem exec_conserved {windowBytes : Nat} {link final : CreditLink} {actions : List CreditAction}
    (conserved : Conserved windowBytes link) (run : machine.exec link actions = some final) :
    Conserved windowBytes final :=
  Lib.Machine.exec_invariant step_conserved conserved run

/-- Every message of a run costs at most `bound` bytes. -/
def CostsAtMost (bound : Nat) (actions : List CreditAction) : Prop :=
  ∀ cost, CreditAction.send cost ∈ actions → cost ≤ bound

/-- A window that serves messages of up to `bound` bytes without ever stalling: when
everything sent is recorded and everything granted is applied, the next message is
charged at once. -/
def NeverStalls (windowBytes bound : Nat) : Prop :=
  ∀ initial, CreditLink.new windowBytes = .ok initial →
    ∀ actions final, CostsAtMost bound actions → machine.exec initial actions = some final →
      final.Settled → ∀ cost ≤ bound, final.AcquiresAtOnce cost

/-- After `count` messages of one byte, below the threshold, the receiver keeps
them all. -/
theorem exec_single_bytes (windowBytes : Nat) {count : Nat}
    (below : count < ReceiverCreditState.threshold windowBytes) (room : count ≤ windowBytes)
    (limited : windowBytes ≤ maxCreditWindowBytes) :
    machine.exec
        ⟨⟨windowBytes, windowBytes, false⟩, ⟨ReceiverCreditState.threshold windowBytes, 0⟩, [], []⟩
        (List.replicate count [CreditAction.send 1, .record]).flatten =
      some ⟨⟨windowBytes - count, windowBytes, false⟩,
        ⟨ReceiverCreditState.threshold windowBytes, count⟩, [], []⟩ := by
  induction count with
  | zero => rfl
  | succ count ih =>
      rw [List.replicate_succ', List.flatten_append, Lib.Machine.exec_append,
        ih (by omega) (by omega)]
      unfold maxCreditWindowBytes at limited
      have small : ¬2 ^ 64 ≤ count + 1 := by omega
      simp only [Option.bind_some, List.flatten_singleton, Lib.Machine.exec, machine, step,
        @acquire_of_le ⟨windowBytes - count, windowBytes, false⟩ 1 (by simp only; omega) rfl
          (by simp only; omega),
        List.nil_append, ReceiverCreditState.recordAccepted, if_neg small, if_pos below]
      rw [Nat.sub_sub]

theorem neverStalls_of_bound {windowBytes bound : Nat} (positive : 1 ≤ windowBytes)
    (limited : windowBytes ≤ maxCreditWindowBytes)
    (small : bound + ReceiverCreditState.threshold windowBytes ≤ windowBytes + 1) :
    NeverStalls windowBytes bound := by
  intro initial created actions final _ run settled cost within
  rw [new_eq positive limited] at created
  cases created
  obtain ⟨capacity, opened, threshold, kept, balance⟩ := exec_conserved (new_conserved windowBytes) run
  rw [settled.1, settled.2, List.sum_nil] at balance
  refine ⟨_, acquire_of_le ?_ opened ?_⟩
  · have some_kept := threshold_pos windowBytes
    omega
  · omega

theorem bound_of_neverStalls {windowBytes bound : Nat} (positive : 1 ≤ windowBytes)
    (limited : windowBytes ≤ maxCreditWindowBytes) (never : NeverStalls windowBytes bound) :
    bound + ReceiverCreditState.threshold windowBytes ≤ windowBytes + 1 := by
  by_contra large
  have kept := threshold_pos windowBytes
  have within := threshold_le positive
  -- one byte at a time, the receiver ends one byte short of its threshold
  have run := exec_single_bytes windowBytes
    (show ReceiverCreditState.threshold windowBytes - 1 < _ by omega) (by omega) limited
  have costs : CostsAtMost bound
      (List.replicate (ReceiverCreditState.threshold windowBytes - 1)
        [CreditAction.send 1, .record]).flatten := by
    intro cost member
    obtain ⟨pair, replicated, sent⟩ := List.mem_flatten.mp member
    rw [(List.mem_replicate.mp replicated).2] at sent
    simp only [List.mem_cons, CreditAction.send.injEq, reduceCtorEq, List.not_mem_nil, or_false] at sent
    omega
  obtain ⟨sender, acquired⟩ := never _ (new_eq positive limited) _ _ costs run ⟨rfl, rfl⟩ bound (Nat.le_refl bound)
  have enough := (acquire_acquired acquired).1
  simp only at enough
  omega

/-- The window never stalls exactly when a message of the largest size still fits
next to the bytes the receiver may keep. -/
theorem neverStalls_iff {windowBytes : Nat} (positive : 1 ≤ windowBytes)
    (limited : windowBytes ≤ maxCreditWindowBytes) (bound : Nat) :
    NeverStalls windowBytes bound ↔
      bound + ReceiverCreditState.threshold windowBytes ≤ windowBytes + 1 :=
  ⟨bound_of_neverStalls positive limited, neverStalls_of_bound positive limited⟩

/-- The default window serves messages of up to half a window. -/
theorem neverStalls_default :
    NeverStalls defaultCreditWindowBytes (32 * 1024 * 1024) ↔
      32 * 1024 * 1024 + ReceiverCreditState.threshold defaultCreditWindowBytes ≤
        defaultCreditWindowBytes + 1 :=
  neverStalls_iff (by decide) (by decide) (32 * 1024 * 1024)

/-- A window of ten bytes stalls: three recorded bytes stay below the threshold of
five, and a message of eight bytes waits for credit that nobody will grant. -/
theorem window_ten_stalls : ¬∀ windowBytes, 1 ≤ windowBytes → windowBytes ≤ maxCreditWindowBytes →
    NeverStalls windowBytes windowBytes := by
  intro never
  have run : machine.exec ⟨⟨10, 10, false⟩, ⟨5, 0⟩, [], []⟩ [.send 3, .record] =
      some ⟨⟨7, 10, false⟩, ⟨5, 3⟩, [], []⟩ := by decide
  have costs : CostsAtMost 10 [.send 3, .record] := by
    intro cost member
    simp only [List.mem_cons, CreditAction.send.injEq, reduceCtorEq, List.not_mem_nil, or_false] at member
    omega
  obtain ⟨sender, acquired⟩ := never 10 (by decide) (by decide) _
    (new_eq (by decide) (by decide)) _ _ costs run ⟨rfl, rfl⟩ 8 (by decide)
  have enough := (acquire_acquired acquired).1
  exact absurd enough (by decide)

end CreditLink

end Terrasync.Transport
