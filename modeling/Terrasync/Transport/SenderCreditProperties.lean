import Mathlib.Data.List.Induction
import Terrasync.Transport.SenderCredit
import Terrasync.Transport.FlowControlProperties

/-! The ledger of the credit window under every interleaving: it never exceeds the window,
and what is missing from it are the costs of successful calls that no grant returned. -/

set_option autoImplicit false

namespace Terrasync.Transport

theorem check_acquired {ledger next : SenderCreditLedger} {bytes : Nat}
    (acquired : ledger.check bytes = .acquired next) :
    ledger.closed = false ∧ bytes ≤ ledger.available ∧
      next = { ledger with available := ledger.available - bytes } := by
  rw [SenderCreditLedger.check] at acquired
  split at acquired
  · cases acquired
  · next opened =>
      split at acquired
      · next enough =>
          cases acquired
          exact ⟨Bool.not_eq_true _ ▸ opened, enough, rfl⟩
      · cases acquired

namespace SenderCreditState

variable {windowBytes : Nat} {state next : SenderCreditState}

/-- What holds between any two steps. -/
structure Exact (windowBytes : Nat) (state : SenderCreditState) : Prop where
  capacity : state.ledger.capacity = windowBytes
  bounded : state.ledger.available ≤ windowBytes
  balance : state.ledger.available + (acquired state.log).sum = windowBytes + (applied state.log).sum
  grants : ∀ bytes outcome, .granted bytes outcome ∈ state.log → outcome.applied + outcome.discarded = bytes
  costs : ∀ bytes, .returned bytes (.ok ()) ∈ state.log → bytes ≤ windowBytes
  shut : .closed ∈ state.log → state.ledger.closed = true
  final : ∀ before after, state.log = before ++ .closed :: after → ∀ bytes, .returned bytes (.ok ()) ∉ after

/-- A step that returns no credit, grants nothing and does not close. -/
theorem Exact.quiet (exact_ : Exact windowBytes state) (ledger : next.ledger = state.ledger)
    (log : next.log = state.log) : Exact windowBytes next := by
  refine ⟨?_, ?_, ?_, ?_, ?_, ?_, ?_⟩
  · rw [ledger]
    exact exact_.capacity
  · rw [ledger]
    exact exact_.bounded
  · rw [ledger, log]
    exact exact_.balance
  · rw [log]
    exact exact_.grants
  · rw [log]
    exact exact_.costs
  · rw [ledger, log]
    exact exact_.shut
  · rw [log]
    exact exact_.final

/-- What follows a close in a longer log. -/
theorem after_closed {log before after : List CreditEvent} {event : CreditEvent}
    (split : log ++ [event] = before ++ .closed :: after) :
    (event = .closed ∧ after = []) ∨ ∃ earlier, after = earlier ++ [event] ∧ log = before ++ .closed :: earlier := by
  induction after using List.reverseRecOn with
  | nil =>
      obtain ⟨-, same⟩ := List.append_inj' split rfl
      exact .inl ⟨List.singleton_inj.1 same, rfl⟩
  | append_singleton earlier last _ =>
      rw [← List.cons_append, ← List.append_assoc] at split
      obtain ⟨log, same⟩ := List.append_inj' split rfl
      cases same
      exact .inr ⟨earlier, rfl, log⟩

theorem Exact.rejected (exact_ : Exact windowBytes state) (index bytes : Nat) (error : TransportError) :
    Exact windowBytes (state.return_ index bytes (.error error)) := by
  refine ⟨exact_.capacity, exact_.bounded, ?_, fun granted outcome member => ?_, fun cost member => ?_,
    fun closed => ?_, fun before after split cost => ?_⟩
  · simpa [return_, acquired, applied] using exact_.balance
  · exact exact_.grants granted outcome (by simpa [return_] using member)
  · exact exact_.costs cost (by simpa [return_] using member)
  · exact exact_.shut (by simpa [return_] using closed)
  · obtain ⟨impossible, -⟩ | ⟨earlier, rfl, log⟩ := after_closed split
    · cases impossible
    · simpa using exact_.final before earlier log cost

theorem Exact.acquires (exact_ : Exact windowBytes state) {index bytes : Nat} {ledger : SenderCreditLedger}
    (taken : state.ledger.check bytes = .acquired ledger) :
    Exact windowBytes ({ state with ledger }.return_ index bytes (.ok ())) := by
  obtain ⟨opened, enough, rfl⟩ := check_acquired taken
  have bounded := exact_.bounded
  have running : .closed ∉ state.log := fun closed => by simp [exact_.shut closed] at opened
  refine ⟨exact_.capacity, ?_, ?_, fun granted outcome member => ?_, fun cost member => ?_, fun closed => ?_,
    fun before after split => ?_⟩
  · simp only [return_]
    omega
  · have balance := exact_.balance
    simp only [return_, acquired, applied, List.filterMap_append, List.filterMap_cons, List.filterMap_nil,
      List.append_nil, List.sum_append, List.sum_singleton] at balance ⊢
    omega
  · exact exact_.grants granted outcome (by simpa [return_] using member)
  · simp only [return_, List.mem_append, List.mem_singleton, CreditEvent.returned.injEq, and_true] at member
    obtain earlier | rfl := member
    · exact exact_.costs cost earlier
    · exact Nat.le_trans enough bounded
  · exact absurd (by simpa [return_] using closed) running
  · obtain ⟨impossible, -⟩ | ⟨earlier, -, log⟩ := after_closed split
    · cases impossible
    · exact absurd (by rw [log]; simp) running

theorem Exact.grant (exact_ : Exact windowBytes state) (bytes : Nat) (calls : List AcquireCall) :
    Exact windowBytes ⟨(state.ledger.grant bytes).1, calls, state.log ++ [.granted bytes (state.ledger.grant bytes).2]⟩ := by
  have bounded := exact_.bounded
  have capacity := exact_.capacity
  refine ⟨capacity, ?_, ?_, fun granted outcome member => ?_, fun cost member => ?_, fun closed => ?_,
    fun before after split cost => ?_⟩
  · simp only [SenderCreditLedger.grant]
    omega
  · have balance := exact_.balance
    simp only [SenderCreditLedger.grant, acquired, applied, List.filterMap_append, List.filterMap_cons,
      List.filterMap_nil, List.append_nil, List.sum_append, List.sum_singleton] at balance ⊢
    omega
  · simp only [List.mem_append, List.mem_singleton, CreditEvent.granted.injEq] at member
    obtain earlier | ⟨rfl, rfl⟩ := member
    · exact exact_.grants granted outcome earlier
    · simp only [SenderCreditLedger.grant]
      omega
  · exact exact_.costs cost (by simpa using member)
  · exact exact_.shut (by simpa using closed)
  · obtain ⟨impossible, -⟩ | ⟨earlier, rfl, log⟩ := after_closed split
    · cases impossible
    · simpa using exact_.final before earlier log cost

theorem Exact.close (exact_ : Exact windowBytes state) (calls : List AcquireCall) :
    Exact windowBytes ⟨state.ledger.close, calls, state.log ++ [.closed]⟩ := by
  refine ⟨exact_.capacity, exact_.bounded, ?_, fun granted outcome member => ?_, fun cost member => ?_,
    fun _ => rfl, fun before after split cost => ?_⟩
  · simpa [SenderCreditLedger.close, acquired, applied] using exact_.balance
  · exact exact_.grants granted outcome (by simpa using member)
  · exact exact_.costs cost (by simpa using member)
  · obtain ⟨-, rfl⟩ | ⟨earlier, rfl, log⟩ := after_closed split
    · exact List.not_mem_nil
    · simpa using exact_.final before earlier log cost

theorem Exact.poll (exact_ : Exact windowBytes state) {index : Nat} {call : AcquireCall}
    (polled : state.pollCall index call = some next) : Exact windowBytes next := by
  obtain ⟨bytes, stage⟩ := call
  cases stage with
  | entered =>
      simp only [pollCall] at polled
      split at polled
      · cases polled
        exact exact_.rejected _ _ _
      · cases polled
        exact exact_.quiet rfl rfl
  | registered =>
      simp only [pollCall] at polled
      split at polled
      · next taken =>
          cases polled
          exact exact_.acquires taken
      · cases polled
        exact exact_.rejected _ _ _
      · cases polled
        exact exact_.quiet rfl rfl
  | suspended => cases polled

/-- One case for each call of the interface. -/
theorem Exact.step (exact_ : Exact windowBytes state) {call : CreditCall}
    (stepped : state.step call = some next) : Exact windowBytes next := by
  cases call with
  | acquire bytes =>
      cases stepped
      exact exact_.quiet rfl rfl
  | poll index =>
      obtain ⟨call, -, polled⟩ := Option.bind_eq_some_iff.1 stepped
      exact exact_.poll polled
  | drop index =>
      cases stepped
      exact exact_.quiet rfl rfl
  | grant bytes =>
      cases stepped
      exact exact_.grant bytes _
  | close =>
      cases stepped
      exact exact_.close _

theorem new_exact (opened : new windowBytes = .ok state) : Exact windowBytes state := by
  have fresh : state = ⟨⟨windowBytes, windowBytes, false⟩, [], []⟩ := by
    simp only [new, SenderCreditLedger.new, validateWindow] at opened
    split at opened
    · cases opened
    · cases opened
      rfl
  subst fresh
  exact ⟨rfl, Nat.le_refl _, rfl, by simp, by simp, by simp, by simp⟩

end SenderCreditState

/-- Whatever calls, grants and closes fall together: the window is never exceeded, what is
missing from it are the costs of successful calls less the applied grants, every grant is
accounted for, no cost above the window is granted, and nothing after the close. -/
theorem sender_credit_exact (windowBytes : Nat) {start final : SenderCreditState} {calls : List CreditCall}
    (opened : SenderCreditState.new windowBytes = .ok start)
    (run : SenderCreditState.machine.exec start calls = some final) :
    final.ledger.available ≤ windowBytes ∧
      (windowBytes : Int) - final.ledger.available =
        (SenderCreditState.acquired final.log).sum - (SenderCreditState.applied final.log).sum ∧
      (∀ bytes outcome, .granted bytes outcome ∈ final.log → outcome.applied + outcome.discarded = bytes) ∧
      (∀ bytes, .returned bytes (.ok ()) ∈ final.log → bytes ≤ windowBytes) ∧
      ∀ before after, final.log = before ++ .closed :: after →
        ∀ bytes, .returned bytes (.ok ()) ∉ after := by
  have exact_ : SenderCreditState.Exact windowBytes final :=
    Lib.Machine.exec_invariant (fun holds stepped => holds.step stepped) (SenderCreditState.new_exact opened) run
  have balance := exact_.balance
  refine ⟨exact_.bounded, ?_, exact_.grants, exact_.costs, exact_.final⟩
  omega

/-- Two calls share a window of ten bytes; the second succeeds after a grant. -/
theorem sender_credit_exact_shared :
    ∃ start final, SenderCreditState.new 10 = .ok start ∧
      SenderCreditState.machine.exec start [.acquire 6, .acquire 7, .poll 0, .poll 1, .poll 0, .poll 0,
        .grant 9, .poll 0, .close] = some final ∧
      (10 : Int) - final.ledger.available =
        (SenderCreditState.acquired final.log).sum - (SenderCreditState.applied final.log).sum ∧
      SenderCreditState.acquired final.log = [6, 7] := by
  obtain ⟨final, run⟩ : ∃ final, SenderCreditState.machine.exec ⟨⟨10, 10, false⟩, [], []⟩
      [.acquire 6, .acquire 7, .poll 0, .poll 1, .poll 0, .poll 0, .grant 9, .poll 0, .close] = some final :=
    ⟨_, rfl⟩
  refine ⟨_, final, rfl, run, (sender_credit_exact 10 rfl run).2.1, ?_⟩
  cases run
  rfl

end Terrasync.Transport
