import Terrasync.App.OutcomeAccount

/-! The ledger, the attempts and the acknowledgements of a session against the calls
that reached it: what one call preserves, and the account of a whole run. -/

set_option autoImplicit false

namespace Terrasync.App

open Transport

open RemoteSessionState

theorem mismatches_append (ndx : Ndx) (calls : List OutcomeCall) (call : OutcomeCall) :
    mismatches ndx (calls ++ [call]) = mismatches ndx calls + if mismatchOf ndx call then 1 else 0 := by
  rw [mismatches, List.countP_append, List.countP_singleton, mismatches]

theorem settled_append (ndx : Ndx) (calls : List OutcomeCall) (call : OutcomeCall) :
    Settled ndx (calls ++ [call]) ↔
      Settled ndx calls ∨ endsDirectly ndx call = true ∨
        mismatchOf ndx call = true ∧ 0 < mismatches ndx calls := by
  have members : (∃ earlier ∈ calls ++ [call], endsDirectly ndx earlier) ↔
      (∃ earlier ∈ calls, endsDirectly ndx earlier) ∨ endsDirectly ndx call := by
    simp only [List.mem_append, List.mem_singleton, or_and_right, exists_or, exists_eq_left]
  rw [Settled, Settled, members, mismatches_append]
  by_cases mismatched : mismatchOf ndx call = true
  · simp only [mismatched, if_true, true_and]
    constructor
    · rintro ((earlier | ends) | twice)
      · exact .inl (.inl earlier)
      · exact .inr (.inl ends)
      · exact .inr (.inr (by omega))
    · rintro ((earlier | twice) | ends | once)
      · exact .inl (.inl earlier)
      · exact .inr (by omega)
      · exact .inl (.inr ends)
      · exact .inr (by omega)
  · simp only [mismatched, if_false, false_and, or_false, Nat.add_zero, Bool.false_eq_true]
    exact or_right_comm

/-- The session agrees with the calls that reached it. -/
structure Tallied (session : RemoteSessionState) (calls : List OutcomeCall) : Prop where
  attempts : ∀ ndx, session.attempts ndx = UInt8.ofNat (mismatches ndx calls)
  settled : ∀ ndx, session.Terminated ndx ↔ Settled ndx calls
  distinct : session.ledger.terminatedNdx.Nodup
  completed : session.ledger.completed =
    session.ledger.terminatedNdx.length + calls.countP isUnindexed

theorem wraps_to_one (count : Nat) : UInt8.ofNat count + 1 = 1 ↔ (count + 1) % 256 = 1 := by
  rw [← UInt8.toNat_inj, UInt8.toNat_add, UInt8.toNat_ofNat']
  simp

variable {session : RemoteSessionState} {calls : List OutcomeCall}

theorem Tallied.retries (tallied : Tallied session calls) {ndx : Ndx} {outcome : FileOutcome} :
    session.Retries ndx outcome ↔
      isMismatch outcome = true ∧ (mismatches ndx calls + 1) % 256 = 1 := by
  rw [Retries, tallied.attempts, wraps_to_one]

theorem Tallied.attemptsAfter (tallied : Tallied session calls) (ndx : Ndx) (outcome : FileOutcome)
    (other : Ndx) : session.attemptsAfter ndx outcome other =
      UInt8.ofNat (mismatches other (calls ++ [.fileOutcome ndx outcome])) := by
  rw [RemoteSessionState.attemptsAfter, mismatches_append, mismatchOf]
  by_cases mismatched : isMismatch outcome = true
  · rw [if_pos mismatched, mismatched, Bool.and_true]
    by_cases same : other = ndx
    · subst same
      rw [Function.update_self, tallied.attempts, if_pos (decide_eq_true rfl), UInt8.ofNat_add]
      rfl
    · rw [Function.update_of_ne same, tallied.attempts,
        if_neg (by simpa using fun equal => same equal.symm), Nat.add_zero]
  · rw [if_neg mismatched, tallied.attempts, Bool.eq_false_of_not_eq_true mismatched, Bool.and_false,
      if_neg Bool.false_ne_true, Nat.add_zero]

/-- A file outcome that does not retry settles its index, and only its index. -/
theorem Tallied.settles (tallied : Tallied session calls) {ndx : Ndx} {outcome : FileOutcome}
    (ends : ¬session.Retries ndx outcome) (other : Ndx) :
    Settled other (calls ++ [.fileOutcome ndx outcome]) ↔ other = ndx ∨ Settled other calls := by
  rw [settled_append, endsDirectly, mismatchOf]
  rw [tallied.retries] at ends
  by_cases same : other = ndx
  · subst same
    refine iff_of_true (.inr ?_) (.inl rfl)
    cases mismatched : isMismatch outcome with
    | true =>
        refine .inr ⟨by simp, ?_⟩
        have again : ¬(mismatches other calls + 1) % 256 = 1 := fun first => ends ⟨mismatched, first⟩
        omega
    | false => exact .inl (by simp)
  · have differs : decide (ndx = other) = false := decide_eq_false fun equal => same equal.symm
    simp [differs, same]

/-- A retried mismatch settles nothing. -/
theorem Tallied.unsettled (tallied : Tallied session calls) {ndx : Ndx} {outcome : FileOutcome}
    (retries : session.Retries ndx outcome) (other : Ndx) :
    Settled other (calls ++ [.fileOutcome ndx outcome]) ↔ Settled other calls := by
  obtain ⟨mismatched, first⟩ := tallied.retries.1 retries
  rw [settled_append, endsDirectly, mismatchOf, mismatched]
  by_cases same : ndx = other
  · subst same
    constructor
    · rintro (earlier | direct | ⟨-, again⟩)
      · exact earlier
      · simp at direct
      · exact .inr (by omega)
    · exact .inl
  · simp [same]

theorem Tallied.recordTerminal (tallied : Tallied session calls) {ndx : Ndx} {call : OutcomeCall}
    {after : RemoteSessionState} (ledger : after.ledger = (session.ledger.recordTerminal ndx).1)
    (indexed : isUnindexed call = false)
    (attempts : ∀ other, after.attempts other = UInt8.ofNat (mismatches other (calls ++ [call])))
    (settles : ∀ other, Settled other (calls ++ [call]) ↔ other = ndx ∨ Settled other calls) :
    Tallied after (calls ++ [call]) := by
  have counted : (calls ++ [call]).countP isUnindexed = calls.countP isUnindexed := by
    rw [List.countP_append, List.countP_singleton, indexed]
    rfl
  rw [TransferLedger.recordTerminal] at ledger
  by_cases terminated : ndx ∈ session.ledger.terminatedNdx
  · rw [if_pos terminated] at ledger
    refine ⟨attempts, fun other => ?_, ?_, ?_⟩
    · rw [Terminated, ledger, settles, ← tallied.settled]
      constructor
      · exact .inr
      · rintro (rfl | earlier)
        · exact terminated
        · exact earlier
    · rw [ledger]
      exact tallied.distinct
    · rw [ledger, counted]
      exact tallied.completed
  · rw [if_neg terminated] at ledger
    refine ⟨attempts, fun other => ?_, ?_, ?_⟩
    · rw [Terminated, ledger, settles, ← tallied.settled]
      exact List.mem_cons
    · rw [ledger]
      exact List.nodup_cons.2 ⟨terminated, tallied.distinct⟩
    · rw [ledger, counted, tallied.completed, List.length_cons]
      exact Nat.add_right_comm _ _ _

theorem Tallied.fileOutcome (tallied : Tallied session calls) (ndx : Ndx) (outcome : FileOutcome) :
    Tallied (session.handleFileOutcome ndx outcome).session (calls ++ [.fileOutcome ndx outcome]) := by
  have attempts := tallied.attemptsAfter ndx outcome
  have handled := session.handleFileOutcome_handled ndx outcome
  generalize session.handleFileOutcome ndx outcome = result at handled ⊢
  cases handled with
  | retried retries value =>
      refine ⟨attempts, fun other => ?_, tallied.distinct, ?_⟩
      · rw [tallied.unsettled retries]
        exact tallied.settled other
      · rw [List.countP_append]
        exact tallied.completed
  | dropped ends terminated value =>
      refine tallied.recordTerminal ?_ rfl attempts (tallied.settles ends)
      rw [TransferLedger.recordTerminal, if_pos (show ndx ∈ session.ledger.terminatedNdx from terminated)]
  | terminal ends opened verdict value =>
      refine tallied.recordTerminal ?_ rfl attempts (tallied.settles ends)
      rw [TransferLedger.recordTerminal, if_neg (show ndx ∉ session.ledger.terminatedNdx from opened)]

theorem Tallied.sourceFailure (tallied : Tallied session calls) (ndx : Option Ndx) :
    Tallied (session.handleSourceFailure ndx).session (calls ++ [.sourceFailure ndx]) := by
  have attempts : ∀ other, session.attempts other =
      UInt8.ofNat (mismatches other (calls ++ [.sourceFailure ndx])) := by
    intro other
    rw [mismatches_append]
    exact tallied.attempts other
  cases ndx with
  | none =>
      refine ⟨attempts, fun other => ?_, tallied.distinct, ?_⟩
      · rw [settled_append]
        exact (tallied.settled other).trans (by simp [endsDirectly, mismatchOf])
      · rw [List.countP_append]
        exact congrArg (· + 1) tallied.completed
  | some ndx =>
      have settles : ∀ other, Settled other (calls ++ [.sourceFailure (some ndx)]) ↔
          other = ndx ∨ Settled other calls := by
        intro other
        rw [settled_append, endsDirectly, mismatchOf]
        simp [or_comm, eq_comm]
      rw [handleSourceFailure]
      split <;> exact tallied.recordTerminal rfl rfl attempts settles

theorem Tallied.entryOutcome (tallied : Tallied session calls) (ack : ReceiverMsg) :
    Tallied (session.handleEntryOutcome ack).session (calls ++ [.entryOutcome ack]) := by
  refine ⟨fun other => ?_, fun other => ?_, tallied.distinct, ?_⟩
  · rw [mismatches_append]
    exact tallied.attempts other
  · rw [settled_append]
    exact (tallied.settled other).trans (by simp [endsDirectly, mismatchOf])
  · rw [List.countP_append]
    exact congrArg (· + 1) tallied.completed

theorem Tallied.answer (tallied : Tallied session calls) (call : OutcomeCall) :
    Tallied (session.answer call).session (calls ++ [call]) := by
  cases call with
  | fileOutcome ndx outcome => exact tallied.fileOutcome ndx outcome
  | sourceFailure ndx => exact tallied.sourceFailure ndx
  | entryOutcome ack => exact tallied.entryOutcome ack

/-! ### Acknowledgements -/

/-- The acknowledgements agree with the session and the calls. -/
structure Acknowledged (settlement : Settlement) (calls : List OutcomeCall) : Prop where
  unanswered : ∀ ndx, ¬settlement.session.Terminated ndx →
    settlement.acks.countP (isTerminalAck ndx) = 0
  once : ∀ ndx, settlement.acks.countP (isTerminalAck ndx) ≤ 1
  redone : ∀ ndx, settlement.acks.countP (isRedoAck ndx) = (mismatches ndx calls + 255) / 256
  errors : settlement.errorCount = settlement.acks.countP isErrorAck

variable {settlement : Settlement}

theorem Acknowledged.silent (acknowledged : Acknowledged settlement calls) {call : OutcomeCall}
    {after : Settlement} (acks : after.acks = settlement.acks)
    (errorCount : after.errorCount = settlement.errorCount)
    (kept : ∀ ndx, settlement.session.Terminated ndx → after.session.Terminated ndx)
    (redone : ∀ ndx, (mismatches ndx (calls ++ [call]) + 255) / 256 = (mismatches ndx calls + 255) / 256) :
    Acknowledged after (calls ++ [call]) := by
  refine ⟨fun ndx opened => ?_, fun ndx => ?_, fun ndx => ?_, ?_⟩
  · rw [acks]
    exact acknowledged.unanswered ndx fun terminated => opened (kept ndx terminated)
  · rw [acks]
    exact acknowledged.once ndx
  · rw [acks, redone]
    exact acknowledged.redone ndx
  · rw [acks, errorCount]
    exact acknowledged.errors

/-- A mismatch that does not retry leaves the number of retries. -/
theorem redone_of_ends (tallied : Tallied session calls) {ndx : Ndx} {outcome : FileOutcome}
    (ends : ¬session.Retries ndx outcome) (other : Ndx) :
    (mismatches other (calls ++ [.fileOutcome ndx outcome]) + 255) / 256 =
      (mismatches other calls + 255) / 256 := by
  rw [tallied.retries] at ends
  rw [mismatches_append, mismatchOf]
  by_cases same : ndx = other
  · subst same
    cases mismatched : isMismatch outcome with
    | true =>
        have again : ¬(mismatches ndx calls + 1) % 256 = 1 := fun first => ends ⟨mismatched, first⟩
        simp only [decide_true, Bool.and_self, if_true]
        omega
    | false => simp
  · simp [same]

theorem Acknowledged.fileOutcome (acknowledged : Acknowledged settlement calls)
    (tallied : Tallied settlement.session calls) (ndx : Ndx) (outcome : FileOutcome) :
    Acknowledged (settlement.settle (.fileOutcome ndx outcome)) (calls ++ [.fileOutcome ndx outcome]) := by
  have handled := settlement.session.handleFileOutcome_handled ndx outcome
  rw [Settlement.settle, answer]
  generalize settlement.session.handleFileOutcome ndx outcome = result at handled ⊢
  cases handled with
  | retried retries value =>
      obtain ⟨mismatched, first⟩ := tallied.retries.1 retries
      refine ⟨fun other opened => ?_, fun other => ?_, fun other => ?_, ?_⟩
      · rw [List.countP_append, acknowledged.unanswered other opened]
        rfl
      · rw [List.countP_append]
        exact acknowledged.once other
      · rw [List.countP_append, acknowledged.redone other, mismatches_append, mismatchOf, mismatched,
          Effects.reply, List.countP_singleton, isRedoAck, Bool.and_true]
        by_cases same : ndx = other
        · subst same
          simp only [decide_true, if_true]
          omega
        · simp [same]
      · rw [List.countP_append]
        exact acknowledged.errors
  | dropped ends terminated value =>
      exact acknowledged.silent (List.append_nil _) rfl (fun _ => id) (redone_of_ends tallied ends)
  | @terminal ends opened ack verdict value =>
      have answered (other : Ndx) : isTerminalAck other ack = decide (ndx = other) := by
        cases verdict <;> rfl
      refine ⟨fun other unanswered => ?_, fun other => ?_, fun other => ?_, ?_⟩
      · have differs : ndx ≠ other := by
          rintro rfl
          exact unanswered List.mem_cons_self
        rw [List.countP_append, List.countP_singleton, answered, if_neg (by simpa using differs)]
        exact acknowledged.unanswered other fun earlier => unanswered (List.mem_cons_of_mem _ earlier)
      · rw [List.countP_append, List.countP_singleton, answered]
        by_cases same : ndx = other
        · subst same
          rw [acknowledged.unanswered ndx opened, if_pos (by simp)]
        · rw [if_neg (by simpa using same)]
          exact acknowledged.once other
      · have plain : isRedoAck other ack = false := by cases verdict <;> rfl
        rw [List.countP_append, List.countP_singleton, plain, acknowledged.redone,
          redone_of_ends tallied ends]
        rfl
      · have counted : errorIncrement ack = if isErrorAck ack then 1 else 0 := by cases verdict <;> rfl
        rw [List.countP_append, List.countP_singleton, acknowledged.errors, counted]

theorem Acknowledged.sourceFailure (acknowledged : Acknowledged settlement calls) (ndx : Option Ndx) :
    Acknowledged (settlement.settle (.sourceFailure ndx)) (calls ++ [.sourceFailure ndx]) := by
  have redone (other : Ndx) : (mismatches other (calls ++ [.sourceFailure ndx]) + 255) / 256 =
      (mismatches other calls + 255) / 256 := by
    rw [mismatches_append]
    rfl
  cases ndx with
  | none => exact acknowledged.silent (List.append_nil _) rfl (fun _ => id) redone
  | some ndx =>
      have kept (other : Ndx) (terminated : settlement.session.Terminated other) :
          other ∈ (settlement.session.ledger.recordTerminal ndx).1.terminatedNdx := by
        rw [TransferLedger.recordTerminal]
        split
        · exact terminated
        · exact List.mem_cons_of_mem _ terminated
      rw [Settlement.settle, answer, handleSourceFailure]
      split <;> exact acknowledged.silent (List.append_nil _) rfl kept redone

theorem Acknowledged.entryOutcome (acknowledged : Acknowledged settlement calls) {ack : ReceiverMsg}
    (unindexed : ackedNdx ack = none) :
    Acknowledged (settlement.settle (.entryOutcome ack)) (calls ++ [.entryOutcome ack]) := by
  have uncounted {counts : ReceiverMsg → Bool} (other : counts ack = false) :
      (settlement.settle (.entryOutcome ack)).acks.countP counts = settlement.acks.countP counts := by
    rw [Settlement.settle, answer, handleEntryOutcome, Effects.reply, List.countP_append,
      List.countP_singleton, other]
    rfl
  have terminal (ndx : Ndx) : isTerminalAck ndx ack = false := by cases ack <;> first | rfl | cases unindexed
  have redo (ndx : Ndx) : isRedoAck ndx ack = false := by cases ack <;> first | rfl | cases unindexed
  have error : isErrorAck ack = false := by cases ack <;> first | rfl | cases unindexed
  refine ⟨fun ndx opened => ?_, fun ndx => ?_, fun ndx => ?_, ?_⟩
  · rw [uncounted (terminal ndx)]
    exact acknowledged.unanswered ndx opened
  · rw [uncounted (terminal ndx)]
    exact acknowledged.once ndx
  · rw [uncounted (redo ndx), acknowledged.redone, mismatches_append]
    rfl
  · rw [uncounted error]
    exact acknowledged.errors

/-! ### Runs -/

theorem run_append (session : RemoteSessionState) (calls : List OutcomeCall) (call : OutcomeCall) :
    Settlement.run session (calls ++ [call]) = (Settlement.run session calls).settle call := by
  rw [Settlement.run, List.foldl_append]
  rfl

theorem run_tallied (session : RemoteSessionState) (calls : List OutcomeCall) :
    Tallied (Settlement.run session calls).session calls := by
  induction calls using List.reverseRecOn with
  | nil => exact ⟨fun _ => rfl, fun ndx => by simp [Settled, mismatches, Terminated, Settlement.run,
      unsettled], List.nodup_nil, rfl⟩
  | append_singleton earlier last ih =>
      rw [run_append]
      exact ih.answer last

theorem run_acknowledged (session : RemoteSessionState) {calls : List OutcomeCall}
    (forwards : ForwardsEntryAcks calls) : Acknowledged (Settlement.run session calls) calls := by
  induction calls using List.reverseRecOn with
  | nil => exact ⟨fun _ _ => rfl, fun _ => Nat.zero_le _, fun _ => by simp [Settlement.run, mismatches], rfl⟩
  | append_singleton earlier last ih =>
      have acknowledged := ih fun ack member => forwards ack (List.mem_append_left _ member)
      rw [run_append]
      cases last with
      | fileOutcome ndx outcome => exact acknowledged.fileOutcome (run_tallied session earlier) ndx outcome
      | sourceFailure ndx => exact acknowledged.sourceFailure ndx
      | entryOutcome ack =>
          exact acknowledged.entryOutcome (forwards ack (List.mem_append_right _ (List.mem_singleton_self _)))

/-- A second mismatch of an index that is still open is an error. -/
theorem secondMismatch_fails (session : RemoteSessionState) (before : List OutcomeCall) {ndx : Ndx}
    {outcome : FileOutcome} (mismatched : isMismatch outcome = true) (again : 0 < mismatches ndx before)
    (opened : ¬(Settlement.run session before).session.Terminated ndx) :
    ∃ reason, ((Settlement.run session before).session.handleFileOutcome ndx outcome).effects.replies =
      [.error ndx reason] := by
  have tallied := run_tallied session before
  have once : mismatches ndx before = 1 := by
    rw [tallied.settled] at opened
    have bounded : ¬2 ≤ mismatches ndx before := fun twice => opened (.inr twice)
    omega
  have handled := (Settlement.run session before).session.handleFileOutcome_handled ndx outcome
  generalize (Settlement.run session before).session.handleFileOutcome ndx outcome = result at handled ⊢
  cases handled with
  | retried retries value =>
      have first := (tallied.retries.1 retries).2
      rw [once] at first
      cases first
  | dropped ends terminated value => exact absurd terminated opened
  | @terminal ends _ ack verdict value =>
      cases verdict with
      | success matched => cases mismatched.symm.trans matched
      | error reason => exact ⟨reason, rfl⟩

/-- With entry acknowledgements forwarded as the disk commit makes them, the accounting
of a run holds exactly when no index mismatches more than 256 times: the attempts of the
next one wrap back to the first. -/
theorem retry_accounting_exact (session : RemoteSessionState) (calls : List OutcomeCall)
    (forwards : ForwardsEntryAcks calls) :
    Accounted session calls ↔ ∀ ndx, mismatches ndx calls ≤ 256 := by
  have tallied := run_tallied session calls
  have acknowledged := run_acknowledged session forwards
  have redoBound (ndx : Ndx) : (Settlement.run session calls).acks.countP (isRedoAck ndx) ≤ 1 ↔
      mismatches ndx calls ≤ 256 := by
    rw [acknowledged.redone]
    omega
  constructor
  · intro accounted ndx
    exact (redoBound ndx).1 (accounted.oneRedo ndx)
  · intro bounded
    refine ⟨?_, acknowledged.once, fun ndx => (redoBound ndx).2 (bounded ndx), ?_, acknowledged.errors⟩
    · refine ⟨(Settlement.run session calls).session.ledger.terminatedNdx.toFinset, fun ndx => ?_, ?_⟩
      · rw [List.mem_toFinset]
        exact tallied.settled ndx
      · rw [List.toFinset_card_of_nodup tallied.distinct]
        exact tallied.completed
    · intro before ndx outcome after _ mismatched again opened
      exact secondMismatch_fails session before mismatched again opened

/-- Retried once, then successful. -/
theorem retry_accounting_once :
    Accounted (.new ⟨32 * 1024 * 1024, 0⟩) [.fileOutcome 7 .hashMismatch, .fileOutcome 7 .success] :=
  (retry_accounting_exact _ _ (by intro ack member; simp at member)).2 (by
    intro ndx
    exact Nat.le_trans List.countP_le_length (by decide))

/-- The 257th mismatch of an index asks for its file a second time. -/
theorem retry_accounting_wraps :
    ¬Accounted (.new ⟨32 * 1024 * 1024, 0⟩) (List.replicate 257 (.fileOutcome 7 .hashMismatch)) := by
  intro accounted
  have forwards : ForwardsEntryAcks (List.replicate 257 (.fileOutcome 7 .hashMismatch)) := by
    intro ack member
    cases List.eq_of_mem_replicate member
  have redos := accounted.oneRedo 7
  rw [(run_acknowledged _ forwards).redone] at redos
  have counted : mismatches 7 (List.replicate 257 (.fileOutcome 7 .hashMismatch)) = 257 := by
    rw [mismatches, List.countP_replicate]
    rfl
  rw [counted] at redos
  omega

end Terrasync.App
