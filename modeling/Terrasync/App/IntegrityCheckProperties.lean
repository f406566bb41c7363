import Terrasync.App.IntegrityCheck
import Terrasync.Lib.Pool

/-! What an integrity check that returns successfully has done, if a worker drained the
queue and none panicked in the middle of an entry: every entry of the walk was dispatched
once, counted once and announced once, and every failed comparison is an issue. Workers
that only log why they ended let a check succeed that compared nothing. -/

set_option autoImplicit false

namespace Terrasync.App

open Lib (held held_set held_keep held_zero)

namespace CheckWorker

/-- The entry a worker took and has not compared. -/
def taken : CheckWorker → Multiset ObservedEntry
  | .received entry => {entry}
  | _ => 0

def unreported (autoFix : Bool) : CheckWorker → Multiset IntegrityIssue
  | .compared checked => ↑(checked.issue autoFix).toList
  | _ => 0

def uncounted (kind : EntryType) : CheckWorker → Nat
  | .compared checked | .reported checked => if entryType checked.entry = kind then 1 else 0
  | _ => 0

def unannounced (autoFix : Bool) : CheckWorker → Multiset StorageEntryMessage
  | .compared checked | .reported checked | .counted checked => {checked.message autoFix}
  | _ => 0

/-- In the middle of an entry. -/
def handling : CheckWorker → Bool
  | .received _ | .compared _ | .reported _ | .counted _ => true
  | _ => false

def isForwarding : CheckWorker → Bool
  | .forwarding _ _ _ => true
  | _ => false

theorem idle_of_not_handling {worker : CheckWorker} (outside : worker.handling = false) (autoFix : Bool) :
    worker.taken = 0 ∧ worker.unreported autoFix = 0 ∧ (∀ kind, worker.uncounted kind = 0) ∧
      worker.unannounced autoFix = 0 := by
  cases worker <;> first | exact ⟨rfl, rfl, fun _ => rfl, rfl⟩ | exact absurd outside.symm Bool.false_ne_true

theorem idle_of_ended {worker : CheckWorker} (ended : worker.ended = true) (autoFix : Bool) :
    worker.taken = 0 ∧ worker.unreported autoFix = 0 ∧ (∀ kind, worker.uncounted kind = 0) ∧
      worker.unannounced autoFix = 0 := by
  refine idle_of_not_handling ?_ autoFix
  cases worker <;> first | rfl | exact absurd ended Bool.false_ne_true

end CheckWorker

open CheckWorker

namespace CheckState

def entriesOf (items : List WalkItem) : Multiset ObservedEntry := ↑(items.filterMap WalkItem.entry)

/-- Nothing was lost or noted twice, as long as the walk met no error. -/
structure Balanced (config : IntegrityCheckConfig) (walk : List WalkItem) (state : CheckState) :
    Prop where
  entries : entriesOf walk = entriesOf state.remaining + entriesOf state.sending.toList +
    entriesOf state.queue + held taken state.workers + ↑(state.history.map Checked.entry)
  issues : (↑(state.history.filterMap (Checked.issue config.autoFix)) : Multiset IntegrityIssue) =
    ↑state.issues + held (unreported config.autoFix) state.workers
  counters : ∀ kind, state.history.countP (fun checked => entryType checked.entry = kind) =
    state.checked kind + held (uncounted kind) state.workers
  messages : (↑(state.history.map (Checked.message config.autoFix)) : Multiset StorageEntryMessage) =
    ↑state.broadcasts + held (unannounced config.autoFix) state.workers
  clean : ∀ item ∈ state.sending.toList ++ state.queue, item.entry.isSome = true
  notForwarding : ∀ worker ∈ state.workers, worker.isForwarding = false
  closed : state.channelClosed = true → state.remaining = [] ∧ state.sending = none
  returned : .returned ∈ state.workers → state.channelClosed = true ∧ state.queue = []
  skipped : ∀ checked ∈ state.history,
    checked.compared = none ↔ entryType checked.entry = .dir ∧ config.holdsDirectoryObjects = true
  found : ∀ item ∈ walk, item.entry.isSome = true ∨ item ∈ state.remaining

theorem entriesOf_append (first second : List WalkItem) :
    entriesOf (first ++ second) = entriesOf first + entriesOf second := by
  rw [entriesOf, List.filterMap_append, ← Multiset.coe_add]
  rfl

theorem entriesOf_cons (item : WalkItem) (rest : List WalkItem) :
    entriesOf (item :: rest) = entriesOf [item] + entriesOf rest :=
  entriesOf_append [item] rest

theorem balanced_initial (config : IntegrityCheckConfig) (walk : List WalkItem) :
    (initial config walk).Balanced config walk := by
  have spawned : ∀ worker ∈ (initial config walk).workers, worker = .spawned :=
    fun worker member => (List.mem_replicate.1 member).2
  have idle : ∀ {Amount : Type} [AddCommMonoid Amount] (amount : CheckWorker → Amount),
      amount .spawned = 0 → held amount (initial config walk).workers = 0 := by
    intro Amount _ amount zero
    exact held_zero fun worker member => by rw [spawned worker member, zero]
  constructor
  · rw [idle taken rfl]
    simp [initial, entriesOf]
  · rw [idle _ rfl]
    rfl
  · intro kind
    rw [idle _ rfl]
    cases kind <;> rfl
  · rw [idle _ rfl]
    rfl
  · exact fun item member => absurd member List.not_mem_nil
  · intro worker member
    rw [spawned worker member]
    rfl
  · exact fun closed => absurd closed Bool.false_ne_true
  · exact fun member => CheckWorker.noConfusion (spawned _ member)
  · exact fun checked member => absurd member List.not_mem_nil
  · exact fun item member => .inr member

section Moves

variable {config : IntegrityCheckConfig} {walk : List WalkItem} {state later : CheckState}
variable {index : Nat} {before after : CheckWorker}

theorem mem_setWorker {worker : CheckWorker} (member : worker ∈ (state.setWorker index after).workers) :
    worker ∈ state.workers ∨ worker = after :=
  List.mem_or_eq_of_mem_set member

/-- Worker moves that leave the forwarding and the returned workers alone. -/
theorem Balanced.notForwarding_set (balanced : state.Balanced config walk)
    (plain : after.isForwarding = false) :
    ∀ worker ∈ (state.setWorker index after).workers, worker.isForwarding = false := by
  intro worker member
  obtain earlier | rfl := mem_setWorker member
  · exact balanced.notForwarding worker earlier
  · exact plain

theorem Balanced.returned_set (balanced : state.Balanced config walk) (working : .returned ≠ after)
    (member : .returned ∈ (state.setWorker index after).workers) :
    state.channelClosed = true ∧ state.queue = [] :=
  balanced.returned ((mem_setWorker member).resolve_right working)

theorem Balanced.entries_keep (balanced : state.Balanced config walk)
    (current : state.workers[index]? = some before) (same : after.taken = before.taken) :
    entriesOf walk = entriesOf state.remaining + entriesOf state.sending.toList +
      entriesOf state.queue + held taken (state.setWorker index after).workers +
        ↑(state.history.map Checked.entry) := by
  rw [setWorker, held_keep current same]
  exact balanced.entries

theorem Balanced.issues_keep (balanced : state.Balanced config walk)
    (current : state.workers[index]? = some before)
    (same : after.unreported config.autoFix = before.unreported config.autoFix) :
    (↑(state.history.filterMap (Checked.issue config.autoFix)) : Multiset IntegrityIssue) =
      ↑state.issues + held (unreported config.autoFix) (state.setWorker index after).workers := by
  rw [setWorker, held_keep current same]
  exact balanced.issues

theorem Balanced.counters_keep (balanced : state.Balanced config walk)
    (current : state.workers[index]? = some before)
    (same : ∀ kind, after.uncounted kind = before.uncounted kind) (kind : EntryType) :
    state.history.countP (fun checked => entryType checked.entry = kind) =
      state.checked kind + held (uncounted kind) (state.setWorker index after).workers := by
  rw [setWorker, held_keep current (same kind)]
  exact balanced.counters kind

theorem Balanced.messages_keep (balanced : state.Balanced config walk)
    (current : state.workers[index]? = some before)
    (same : after.unannounced config.autoFix = before.unannounced config.autoFix) :
    (↑(state.history.map (Checked.message config.autoFix)) : Multiset StorageEntryMessage) =
      ↑state.broadcasts + held (unannounced config.autoFix) (state.setWorker index after).workers := by
  rw [setWorker, held_keep current same]
  exact balanced.messages

theorem Balanced.observe (balanced : state.Balanced config walk) (moves : state.observe = some later)
    (fine : later.storedError = false) : later.Balanced config walk := by
  simp only [CheckState.observe] at moves
  split at moves
  · next item rest idle found =>
      cases moves
      have scanned : item.entry.isSome = true := by
        have stored := (Bool.or_eq_false_iff.1 fine).2
        rwa [← Option.not_isSome, Bool.not_eq_false'] at stored
      refine { balanced with entries := ?_, clean := ?_, closed := ?_, found := ?_ }
      · rw [balanced.entries, idle, found, entriesOf_cons]
        simp only [Option.toList, entriesOf, List.filterMap_nil, Multiset.coe_nil, add_zero]
        ac_rfl
      · intro member inside
        obtain rfl | queued := List.mem_cons.1 inside
        · exact scanned
        · exact balanced.clean member (List.mem_append_right _ queued)
      · intro closed
        rw [(balanced.closed closed).1] at found
        cases found
      · intro other member
        refine (balanced.found other member).elim .inl fun left => ?_
        rw [found] at left
        exact (List.mem_cons.1 left).imp (fun same => by rw [same]; exact scanned) id
  · cases moves

theorem Balanced.send (balanced : state.Balanced config walk) (moves : state.send = some later) :
    later.Balanced config walk := by
  simp only [CheckState.send] at moves
  split at moves
  · cases moves
  · next item outgoing =>
      have opened : ¬state.channelClosed = true := fun closed => by
        rw [(balanced.closed closed).2] at outgoing
        cases outgoing
      rw [if_neg opened] at moves
      split at moves
      · cases moves
        refine { balanced with entries := ?_, clean := ?_, closed := ?_, returned := ?_ }
        · rw [balanced.entries, outgoing, entriesOf_append]
          simp only [Option.toList, entriesOf, List.filterMap_nil, Multiset.coe_nil, add_zero]
          ac_rfl
        · intro member inside
          have known := balanced.clean member
          rw [outgoing] at known
          simp only [Option.toList, List.nil_append, List.mem_append, List.mem_singleton] at known inside
          exact known inside.symm
        · exact fun closed => absurd closed opened
        · exact fun member => absurd (balanced.returned member).1 opened
      · cases moves

theorem Balanced.endWalk (balanced : state.Balanced config walk) (moves : state.endWalk = some later) :
    later.Balanced config walk := by
  simp only [CheckState.endWalk] at moves
  split at moves
  · next ended =>
      cases moves
      exact { balanced with
        closed := fun _ => ended
        returned := fun member => ⟨rfl, (balanced.returned member).2⟩ }
  · cases moves

theorem Balanced.createStorages (balanced : state.Balanced config walk) (created : Bool)
    (current : state.workers[index]? = some .spawned) :
    (state.setWorker index (if created then .waiting else .setupFailed)).Balanced config walk :=
  { balanced with
    entries := balanced.entries_keep current (by cases created <;> rfl)
    issues := balanced.issues_keep current (by cases created <;> rfl)
    counters := balanced.counters_keep current (by cases created <;> exact fun _ => rfl)
    messages := balanced.messages_keep current (by cases created <;> rfl)
    notForwarding := balanced.notForwarding_set (by cases created <;> rfl)
    returned := balanced.returned_set (by cases created <;> exact CheckWorker.noConfusion) }

theorem Balanced.receive (balanced : state.Balanced config walk) {entry : ObservedEntry}
    {rest : List WalkItem} (current : state.workers[index]? = some .waiting)
    (queued : state.queue = .scanned entry :: rest) :
    Balanced config walk { state.setWorker index (.received entry) with queue := rest } := by
  have took : held taken (state.setWorker index (.received entry)).workers + 0 =
      held taken state.workers + {entry} := held_set _ current
  refine { balanced with
    entries := ?_
    issues := balanced.issues_keep current rfl
    counters := balanced.counters_keep current fun _ => rfl
    messages := balanced.messages_keep current rfl
    clean := ?_
    notForwarding := balanced.notForwarding_set rfl
    returned := ?_ }
  · rw [add_zero] at took
    rw [balanced.entries, queued, entriesOf_cons, took]
    simp only [entriesOf, List.filterMap_cons, WalkItem.entry, List.filterMap_nil,
      Multiset.coe_singleton]
    simp only [setWorker]
    ac_rfl
  · intro item inside
    refine balanced.clean item ?_
    rw [queued]
    exact (List.mem_append.1 inside).elim (List.mem_append_left _)
      fun behind => List.mem_append_right _ (List.mem_cons_of_mem _ behind)
  · intro member
    have empty := (balanced.returned_set CheckWorker.noConfusion member).2
    rw [queued] at empty
    cases empty

theorem Balanced.next (balanced : state.Balanced config walk) (moves : state.next index = some later)
    (fine : later.scanFailed = false) : later.Balanced config walk := by
  simp only [CheckState.next] at moves
  split at moves
  · next current =>
      split at moves
      · next broken =>
          cases moves
          exact absurd (fine.symm.trans broken) Bool.false_ne_true
      · split at moves
        · next entry rest queued =>
            cases moves
            exact balanced.receive current queued
        · next path entry reason rest queued =>
            have plain := balanced.clean (.error path entry reason)
              (List.mem_append_right _ (queued ▸ List.mem_cons_self))
            cases plain
        · next empty =>
            split at moves
            · next closed =>
                cases moves
                exact { balanced with
                  entries := balanced.entries_keep current rfl
                  issues := balanced.issues_keep current rfl
                  counters := balanced.counters_keep current fun _ => rfl
                  messages := balanced.messages_keep current rfl
                  notForwarding := balanced.notForwarding_set rfl
                  returned := fun _ => ⟨closed, empty⟩ }
            · cases moves
  · cases moves

theorem Balanced.compare (balanced : state.Balanced config walk) {result : Except CompareError Unit}
    {setMetadata : Bool} (moves : state.compare config index result setMetadata = some later) :
    later.Balanced config walk := by
  simp only [CheckState.compare] at moves
  split at moves
  · next entry current =>
      obtain ⟨checked, shape⟩ : ∃ checked : Checked, checked = ⟨index, entry,
          if entryType entry = .dir ∧ config.holdsDirectoryObjects = true then none else some result,
          setMetadata⟩ := ⟨_, rfl⟩
      rw [← shape] at moves
      cases moves
      have gave : held taken (state.setWorker index (.compared checked)).workers + {entry} =
          held taken state.workers + 0 := held_set _ current
      have unreportedNow : held (unreported config.autoFix)
          (state.setWorker index (.compared checked)).workers + 0 =
            held (unreported config.autoFix) state.workers + ↑(checked.issue config.autoFix).toList :=
        held_set _ current
      have unannouncedNow : held (unannounced config.autoFix)
          (state.setWorker index (.compared checked)).workers + 0 =
            held (unannounced config.autoFix) state.workers + {checked.message config.autoFix} :=
        held_set _ current
      have uncountedNow : ∀ kind, held (uncounted kind)
          (state.setWorker index (.compared checked)).workers + 0 =
            held (uncounted kind) state.workers + if entryType checked.entry = kind then 1 else 0 :=
        fun kind => held_set _ current
      simp only [add_zero] at gave unreportedNow unannouncedNow uncountedNow
      refine { balanced with
        entries := ?_, issues := ?_, counters := ?_, messages := ?_
        notForwarding := balanced.notForwarding_set rfl
        returned := balanced.returned_set CheckWorker.noConfusion
        skipped := ?_ }
      · rw [balanced.entries, ← gave, List.map_append, ← Multiset.coe_add, shape]
        simp only [List.map_cons, List.map_nil, Multiset.coe_singleton, setWorker]
        ac_rfl
      · rw [unreportedNow, List.filterMap_append, ← Multiset.coe_add, balanced.issues, add_assoc]
        have single : [checked].filterMap (Checked.issue config.autoFix) =
            (checked.issue config.autoFix).toList := by
          rw [List.filterMap_cons]
          split <;> simp_all
        rw [single]
        rfl
      · intro kind
        rw [uncountedNow, List.countP_append, balanced.counters, List.countP_singleton, shape]
        simp only [decide_eq_true_eq, add_assoc]
        rfl
      · rw [unannouncedNow, List.map_append, ← Multiset.coe_add, balanced.messages, add_assoc]
        rfl
      · intro other member
        obtain earlier | rfl := (List.mem_append.1 member).imp_right List.mem_singleton.1
        · exact balanced.skipped other earlier
        · rw [shape]
          simp only [ite_eq_left_iff, reduceCtorEq, imp_false, not_not]
  · cases moves

theorem Balanced.pushIssue (balanced : state.Balanced config walk)
    (moves : state.pushIssue config index = some later) : later.Balanced config walk := by
  simp only [CheckState.pushIssue] at moves
  split at moves
  · next checked current =>
      cases moves
      have reported : held (unreported config.autoFix)
          (state.setWorker index (.reported checked)).workers +
            ↑(checked.issue config.autoFix).toList =
              held (unreported config.autoFix) state.workers + 0 := held_set _ current
      refine { balanced with
        entries := balanced.entries_keep current rfl
        issues := ?_
        counters := balanced.counters_keep current fun _ => rfl
        messages := balanced.messages_keep current rfl
        notForwarding := balanced.notForwarding_set rfl
        returned := balanced.returned_set CheckWorker.noConfusion }
      rw [add_zero] at reported
      refine balanced.issues.trans ?_
      rw [← reported, ← Multiset.coe_add]
      simp only [setWorker]
      ac_rfl
  · cases moves

theorem checked_increment (kind other : EntryType) :
    (state.increment kind).checked other = state.checked other + if kind = other then 1 else 0 := by
  cases kind <;> cases other <;> rfl

theorem Balanced.count (balanced : state.Balanced config walk)
    (moves : state.count index = some later) : later.Balanced config walk := by
  simp only [CheckState.count] at moves
  split at moves
  · next checked current =>
      cases moves
      have countedNow : ∀ kind, held (uncounted kind)
          (state.setWorker index (.counted checked)).workers +
            (if entryType checked.entry = kind then 1 else 0) = held (uncounted kind) state.workers + 0 :=
        fun kind => held_set _ current
      have counters : ∀ kind, state.history.countP (fun checked => entryType checked.entry = kind) =
          ((state.setWorker index (.counted checked)).increment (entryType checked.entry)).checked kind +
            held (uncounted kind) (state.setWorker index (.counted checked)).workers := by
        intro kind
        rw [balanced.counters, checked_increment, ← add_zero (held _ state.workers), ← countedNow kind,
          add_assoc, add_comm (held _ _) (ite _ _ _)]
        rfl
      cases kindOf : entryType checked.entry <;> rw [kindOf] at counters <;>
        exact { balanced with
          entries := balanced.entries_keep current rfl
          issues := balanced.issues_keep current rfl
          counters
          messages := balanced.messages_keep current rfl
          notForwarding := balanced.notForwarding_set rfl
          returned := balanced.returned_set CheckWorker.noConfusion }
  · cases moves

theorem Balanced.broadcast (balanced : state.Balanced config walk)
    (moves : state.broadcast config index = some later) : later.Balanced config walk := by
  simp only [CheckState.broadcast] at moves
  split at moves
  · next checked current =>
      cases moves
      have announced : held (unannounced config.autoFix) (state.setWorker index .waiting).workers +
          {checked.message config.autoFix} = held (unannounced config.autoFix) state.workers + 0 :=
        held_set _ current
      refine { balanced with
        entries := balanced.entries_keep current rfl
        issues := balanced.issues_keep current rfl
        counters := balanced.counters_keep current fun _ => rfl
        messages := ?_
        notForwarding := balanced.notForwarding_set rfl
        returned := balanced.returned_set CheckWorker.noConfusion }
      rw [add_zero] at announced
      refine balanced.messages.trans ?_
      rw [← announced, ← Multiset.coe_add, Multiset.coe_singleton]
      simp only [setWorker]
      ac_rfl
  · next path entry reason current =>
      have plain := balanced.notForwarding _ (List.mem_of_getElem? current)
      exact absurd plain.symm Bool.false_ne_true
  · cases moves

/-- A panic outside of an entry loses nothing. -/
theorem Balanced.panic (balanced : state.Balanced config walk) (current : state.workers[index]? = some before)
    (outside : before.handling = false) : (state.setWorker index .panicked).Balanced config walk := by
  obtain ⟨taken, unreported, uncounted, unannounced⟩ := idle_of_not_handling outside config.autoFix
  exact { balanced with
    entries := balanced.entries_keep current taken.symm
    issues := balanced.issues_keep current unreported.symm
    counters := balanced.counters_keep current fun kind => (uncounted kind).symm
    messages := balanced.messages_keep current unannounced.symm
    notForwarding := balanced.notForwarding_set rfl
    returned := balanced.returned_set CheckWorker.noConfusion }

end Moves

/-- How a worker may move. -/
structure WorkerMove (action : CheckAction) (index : Nat) (before after : CheckWorker) : Prop where
  started : after ≠ .spawned
  setup : after = .setupFailed → before = .spawned
  panics : after = .panicked → action = .panic index

/-- What one step does to the workers, the errors and the return value. -/
structure Shape (state later : CheckState) (action : CheckAction) : Prop where
  workers : later.workers = state.workers ∨ ∃ index before after,
    state.workers[index]? = some before ∧ later.workers = state.workers.set index after ∧
      WorkerMove action index before after
  failed : state.failed = true → later.failed = true
  history : ∀ checked ∈ later.history, checked ∈ state.history ∨ ∃ index result setMetadata,
    action = .compare index result setMetadata ∧
      (checked.compared = none ∨ checked.compared = some result)
  result : later.succeeded = none ∨
    (later.workers.all CheckWorker.ended = true ∧ later.succeeded = some (!later.failed))

theorem Shape.of_move {state later : CheckState} {action : CheckAction}
    {index : Nat} {before after : CheckWorker} (running : state.succeeded = none)
    (current : state.workers[index]? = some before) (workers : later.workers = state.workers.set index after)
    (move : WorkerMove action index before after) (failed : later.failed = state.failed)
    (history : later.history = state.history)
    (result : later.succeeded = state.succeeded) : Shape state later action where
  workers := .inr ⟨index, before, after, current, workers, move⟩
  failed := fun broken => failed.trans broken
  history := fun _ member => .inl (history ▸ member)
  result := .inl (result.trans running)

theorem shape_of_step {config : IntegrityCheckConfig} {state later : CheckState} {action : CheckAction}
    (moves : state.step config action = some later) : Shape state later action := by
  simp only [CheckState.step] at moves
  split at moves
  · cases moves
  · next open_ =>
    have running : state.succeeded = none := by
      rwa [Option.not_isSome_iff_eq_none] at open_
    cases action with
    | observe =>
        simp only [CheckState.observe] at moves
        split at moves
        · cases moves
          refine ⟨.inl rfl, fun broken => ?_, fun _ member => .inl member, .inl running⟩
          simp only [CheckState.failed, Bool.or_eq_true] at broken ⊢
          exact broken.imp_right .inl
        · cases moves
    | send =>
        simp only [CheckState.send] at moves
        repeat' split at moves
        all_goals cases moves
        all_goals exact ⟨.inl rfl, id, fun _ member => .inl member, .inl running⟩
    | endWalk =>
        simp only [CheckState.endWalk] at moves
        split at moves
        · cases moves
          exact ⟨.inl rfl, id, fun _ member => .inl member, .inl running⟩
        · cases moves
    | scanFails =>
        cases moves
        exact ⟨.inl rfl, fun _ => rfl, fun _ member => .inl member, .inl running⟩
    | createStorages index created =>
        simp only at moves
        split at moves
        · next current =>
            cases moves
            refine Shape.of_move running current rfl ⟨?_, fun _ => rfl, ?_⟩ rfl rfl rfl
            · cases created <;> exact CheckWorker.noConfusion
            · cases created <;> exact fun same => CheckWorker.noConfusion same
        · cases moves
    | next index =>
        simp only [CheckState.next] at moves
        split at moves
        · next current =>
            repeat' split at moves
            all_goals cases moves
            all_goals exact Shape.of_move running current rfl (by constructor <;> nofun) rfl rfl rfl
        · cases moves
    | compare index result setMetadata =>
        simp only [CheckState.compare] at moves
        split at moves
        · next entry current =>
            cases moves
            have moved : ∀ checked, WorkerMove (.compare index result setMetadata) index (.received entry)
                (.compared checked) := fun checked => by constructor <;> nofun
            refine ⟨.inr ⟨index, _, _, current, rfl, moved _⟩, id, fun checked member => ?_, .inl running⟩
            refine (List.mem_append.1 member).imp_right fun added => ⟨index, result, setMetadata, rfl, ?_⟩
            rw [List.mem_singleton.1 added]
            split
            · exact .inl rfl
            · exact .inr rfl
        · cases moves
    | pushIssue index =>
        simp only [CheckState.pushIssue] at moves
        split at moves
        · next checked current =>
            cases moves
            exact Shape.of_move running current rfl (by constructor <;> nofun) rfl rfl rfl
        · cases moves
    | count index =>
        simp only [CheckState.count] at moves
        split at moves
        · next checked current =>
            cases moves
            cases entryType checked.entry <;>
              exact Shape.of_move running current rfl (by constructor <;> nofun) rfl rfl rfl
        · cases moves
    | broadcast index =>
        simp only [CheckState.broadcast] at moves
        split at moves
        · next checked current =>
            cases moves
            exact Shape.of_move running current rfl (by constructor <;> nofun) rfl rfl rfl
        · next path entry reason current =>
            cases moves
            exact Shape.of_move running current rfl (by constructor <;> nofun) rfl rfl rfl
        · cases moves
    | panic index =>
        simp only at moves
        split at moves
        · next worker current =>
            split at moves
            · cases moves
            · cases moves
              exact Shape.of_move running current rfl ⟨nofun, nofun, fun _ => rfl⟩ rfl rfl rfl
        · cases moves
    | finish =>
        simp only at moves
        split at moves
        · next ended =>
            cases moves
            exact ⟨.inl rfl, id, fun _ member => .inl member, .inr ⟨ended, rfl⟩⟩
        · cases moves

/-- A worker that panics is not in the middle of an entry. -/
def Calm (state : CheckState) : CheckAction → Prop
  | .panic index => state.workers[index]?.any CheckWorker.handling = false
  | _ => True

instance decidableCalm (state : CheckState) : ∀ action, Decidable (state.Calm action)
  | .panic index => inferInstanceAs (Decidable (state.workers[index]?.any CheckWorker.handling = false))
  | .observe | .send | .endWalk | .scanFails | .createStorages _ _ | .next _ | .compare _ _ _
  | .pushIssue _ | .count _ | .broadcast _ | .finish => isTrue trivial

theorem Balanced.step {config : IntegrityCheckConfig} {walk : List WalkItem}
    {state later : CheckState} {action : CheckAction} (balanced : state.Balanced config walk)
    (calm : state.Calm action) (moves : state.step config action = some later)
    (fine : later.failed = false) : later.Balanced config walk := by
  obtain ⟨scanFine, storedFine⟩ := Bool.or_eq_false_iff.1 fine
  simp only [CheckState.step] at moves
  split at moves
  · cases moves
  · cases action with
    | observe => exact balanced.observe moves storedFine
    | send => exact balanced.send moves
    | endWalk => exact balanced.endWalk moves
    | scanFails =>
        cases moves
        cases scanFine
    | createStorages index created =>
        simp only at moves
        split at moves
        · next current =>
            cases moves
            exact balanced.createStorages created current
        · cases moves
    | next index => exact balanced.next moves scanFine
    | compare index result setMetadata => exact balanced.compare moves
    | pushIssue index => exact balanced.pushIssue moves
    | count index => exact balanced.count moves
    | broadcast index => exact balanced.broadcast moves
    | panic index =>
        simp only at moves
        split at moves
        · next worker current =>
            split at moves
            · cases moves
            · cases moves
              rw [Calm, current] at calm
              exact balanced.panic current calm
        · cases moves
    | finish =>
        simp only at moves
        split at moves
        · cases moves
          exact { balanced with }
        · cases moves

/-- Past the opening of its storages, and not panicked. -/
def Opened (index : Nat) (state : CheckState) : Prop :=
  ∃ worker, state.workers[index]? = some worker ∧ worker ≠ .spawned ∧ worker ≠ .setupFailed ∧
    worker ≠ .panicked

theorem Opened.step {index : Nat} {state later : CheckState} {action : CheckAction}
    (opened : state.Opened index) (quiet : action ≠ .panic index) (shape : Shape state later action) :
    later.Opened index := by
  obtain ⟨worker, current, started, setup, alive⟩ := opened
  obtain same | ⟨moved, before, after, from_, workers, move⟩ := shape.workers
  · exact ⟨worker, same ▸ current, started, setup, alive⟩
  · by_cases here : moved = index
    · subst here
      rw [current] at from_
      cases from_
      refine ⟨after, ?_, move.started, fun failed => started (move.setup failed),
        fun panicked => quiet (move.panics panicked)⟩
      rw [workers, List.getElem?_set_self (List.getElem?_eq_some_iff.1 current).1]
    · exact ⟨worker, by rw [workers, List.getElem?_set_ne here, current], started, setup, alive⟩

/-- What holds of every state of a run without panics inside entries. -/
structure Sound (config : IntegrityCheckConfig) (walk : List WalkItem) (state : CheckState) : Prop where
  balanced : state.failed = false → state.Balanced config walk
  result : state.succeeded = none ∨
    (state.workers.all CheckWorker.ended = true ∧ state.succeeded = some (!state.failed))

theorem Sound.step {config : IntegrityCheckConfig} {walk : List WalkItem} {state later : CheckState}
    {action : CheckAction} (sound : state.Sound config walk) (calm : state.Calm action)
    (moves : state.step config action = some later) : later.Sound config walk := by
  have shape := shape_of_step moves
  refine ⟨fun fine => ?_, shape.result⟩
  have before : state.failed = false := by
    rw [Bool.eq_false_iff]
    intro broken
    rw [shape.failed broken] at fine
    cases fine
  exact (sound.balanced before).step calm moves fine

/-- Everything the walk found is dispatched, counted, announced and, where its comparison
failed, reported exactly once. -/
structure Accounted (config : IntegrityCheckConfig) (walk : List WalkItem) (state : CheckState) :
    Prop where
  walked : ∀ item ∈ walk, item.entry.isSome = true
  dispatched : (state.history.map Checked.entry).Perm (walk.filterMap WalkItem.entry)
  skipped : ∀ checked ∈ state.history,
    checked.compared = none ↔ entryType checked.entry = .dir ∧ config.holdsDirectoryObjects = true
  counted : ∀ kind, state.checked kind =
    (walk.filterMap WalkItem.entry).countP (fun entry => entryType entry = kind)
  announced : state.broadcasts.Perm (state.history.map (Checked.message config.autoFix))
  reported : state.issues.Perm (state.history.filterMap (Checked.issue config.autoFix))
  issue : ∀ checked ∈ state.history, (checked.issue config.autoFix).isSome = true ↔
    ∃ error, checked.compared = some (.error error) ∧ error ≠ .cancelled
  passed : state.issues = [] → ∀ checked ∈ state.history, checked.compared = none ∨
    checked.compared = some (.ok ()) ∨ checked.compared = some (.error .cancelled)

theorem issue_isSome (autoFix : Bool) (checked : Checked) :
    (checked.issue autoFix).isSome = true ↔
      ∃ error, checked.compared = some (.error error) ∧ error ≠ .cancelled := by
  obtain ⟨worker, entry, compared, setMetadata⟩ := checked
  rcases compared with _ | ⟨error | ⟨⟩⟩
  · simp [Checked.issue, Checked.outcome]
  · cases error <;> simp [Checked.issue, Checked.outcome, processEntry, structuredMismatchLabels]
  · simp [Checked.issue, Checked.outcome, processEntry]

theorem Balanced.accounted {config : IntegrityCheckConfig} {walk : List WalkItem} {state : CheckState}
    (balanced : state.Balanced config walk) (ended : state.workers.all CheckWorker.ended = true)
    (returned : .returned ∈ state.workers) : state.Accounted config walk := by
  obtain ⟨closed, drained⟩ := balanced.returned returned
  obtain ⟨exhausted, idle⟩ := balanced.closed closed
  have none : ∀ {Amount : Type} [AddCommMonoid Amount] (amount : CheckWorker → Amount),
      (∀ worker, worker.ended = true → amount worker = 0) → held amount state.workers = 0 := by
    intro Amount _ amount zero
    exact held_zero fun worker member => zero worker (List.all_eq_true.1 ended worker member)
  have entries := balanced.entries
  have issues := balanced.issues
  have messages := balanced.messages
  rw [none _ fun worker done => (idle_of_ended done false).1, exhausted, drained, idle] at entries
  rw [none _ fun worker done => (idle_of_ended done _).2.1, add_zero, Multiset.coe_eq_coe] at issues
  rw [none _ fun worker done => (idle_of_ended done _).2.2.2, add_zero, Multiset.coe_eq_coe] at messages
  simp only [entriesOf, Option.toList, List.filterMap_nil, Multiset.coe_nil, zero_add,
    Multiset.coe_eq_coe] at entries
  refine ⟨?_, entries.symm, balanced.skipped, ?_, messages.symm, issues.symm,
    fun checked _ => issue_isSome _ checked, ?_⟩
  · intro item member
    refine (balanced.found item member).resolve_right fun left => ?_
    rw [exhausted] at left
    exact absurd left List.not_mem_nil
  · intro kind
    have counted := balanced.counters kind
    rw [none _ fun worker done => (idle_of_ended done false).2.2.1 kind, add_zero] at counted
    rw [← counted, entries.countP_eq, List.countP_map]
    rfl
  · intro empty checked member
    rw [empty] at issues
    have silent := List.filterMap_eq_nil_iff.1 (List.perm_nil.1 issues) checked member
    have failed := not_congr (issue_isSome config.autoFix checked)
    rw [silent] at failed
    rcases outcome : checked.compared with _ | ⟨error | ⟨⟩⟩
    · exact .inl rfl
    · refine .inr (.inr ?_)
      by_contra other
      exact failed.1 Bool.false_ne_true ⟨error, outcome, fun same => other (by rw [same])⟩
    · exact .inr (.inl rfl)

theorem sound_run {config : IntegrityCheckConfig} {walk : List WalkItem} {actions : List CheckAction}
    {final : CheckState} (run : (integrityCheck config).exec (initial config walk) actions = some final)
    (calm : (integrityCheck config).Along Calm (initial config walk) actions) : final.Sound config walk := by
  have preserved : ∀ {state action later}, state.Sound config walk → state.Calm action →
      (integrityCheck config).step state action = some later → later.Sound config walk :=
    fun sound quiet moves => sound.step quiet moves
  have start : (initial config walk).Sound config walk := ⟨fun _ => balanced_initial config walk, .inl rfl⟩
  exact Lib.Machine.exec_invariant_along preserved start calm run

theorem opened_run {config : IntegrityCheckConfig} {start final : CheckState}
    {actions : List CheckAction} {index : Nat}
    (run : (integrityCheck config).exec start actions = some final)
    (member : .createStorages index true ∈ actions) (quiet : .panic index ∉ actions) :
    final.Opened index := by
  obtain ⟨before, middle, next, after, split, -, moves, later⟩ := Lib.Machine.exec_split run member
  have opened : next.Opened index := by
    simp only [integrityCheck, CheckState.step] at moves
    split at moves
    · cases moves
    · split at moves
      · next current =>
          cases moves
          refine ⟨.waiting, ?_, CheckWorker.noConfusion, CheckWorker.noConfusion, CheckWorker.noConfusion⟩
          exact List.getElem?_set_self (List.getElem?_eq_some_iff.1 current).1
      · cases moves
  have others : ∀ action ∈ after, action ≠ .panic index := by
    rintro action inside rfl
    exact quiet (split ▸ List.mem_append_right _ (List.mem_cons_of_mem _ inside))
  have preserved : ∀ {state action later}, state.Opened index → action ≠ .panic index →
      (integrityCheck config).step state action = some later → later.Opened index :=
    fun opened quiet moves => opened.step quiet (shape_of_step moves)
  exact Lib.Machine.exec_invariant_along preserved opened (Lib.Machine.along_of_forall others _) later

/-- A successful check in which a worker opened its storages and went on to the end, and
none panicked in the middle of an entry, accounts for every entry of the walk. -/
theorem integrity_check_accounts (config : IntegrityCheckConfig) (walk : List WalkItem)
    (actions : List CheckAction) (final : CheckState)
    (run : (integrityCheck config).exec (initial config walk) actions = some final)
    (succeeded : final.succeeded = some true)
    (opened : ∃ worker, .createStorages worker true ∈ actions ∧ .panic worker ∉ actions)
    (calm : (integrityCheck config).Along Calm (initial config walk) actions) :
    final.Accounted config walk := by
  obtain ⟨index, member, quiet⟩ := opened
  obtain ⟨balanced, result⟩ := sound_run run calm
  obtain ⟨worker, current, started, setup, alive⟩ := opened_run run member quiet
  rw [succeeded] at result
  obtain ⟨ended, outcome⟩ := result.resolve_left (Option.some_ne_none _)
  have fine : final.failed = false := by
    rwa [Option.some.injEq, eq_comm, Bool.not_eq_true'] at outcome
  have known : worker ∈ final.workers := List.mem_of_getElem? current
  have done := List.all_eq_true.1 ended worker known
  have returned : worker = .returned := by
    cases worker with
    | returned => rfl
    | setupFailed => exact absurd rfl setup
    | panicked => exact absurd rfl alive
    | _ => exact absurd done Bool.false_ne_true
  exact (balanced fine).accounted ended (returned ▸ known)

/-- What a comparison reported was the result of a comparison. -/
theorem compared_run {config : IntegrityCheckConfig} {walk : List WalkItem} {actions : List CheckAction}
    {final : CheckState} {excluded : Except CompareError Unit}
    (run : (integrityCheck config).exec (initial config walk) actions = some final)
    (never : ∀ worker setMetadata, .compare worker excluded setMetadata ∉ actions) :
    ∀ checked ∈ final.history, checked.compared ≠ some excluded := by
  have others : ∀ action ∈ actions, ∀ worker setMetadata, action ≠ .compare worker excluded setMetadata := by
    rintro action inside worker setMetadata rfl
    exact never worker setMetadata inside
  have preserved : ∀ {state action later}, (∀ checked ∈ state.history, checked.compared ≠ some excluded) →
      (∀ worker setMetadata, action ≠ .compare worker excluded setMetadata) →
      (integrityCheck config).step state action = some later →
      ∀ checked ∈ later.history, checked.compared ≠ some excluded := by
    intro state action later kept quiet moves checked member compared
    obtain earlier | ⟨worker, result, setMetadata, rfl, none | same⟩ :=
      (shape_of_step moves).history checked member
    · exact kept checked earlier compared
    · rw [none] at compared
      cases compared
    · rw [same, Option.some.injEq] at compared
      exact quiet worker setMetadata (by rw [compared])
  exact Lib.Machine.exec_invariant_along preserved (fun checked member => absurd member List.not_mem_nil)
    (Lib.Machine.along_of_forall others _) run

/-- What a successful check stands for: every entry of the walk compared by one worker,
counted once and announced once, with one issue for each comparison that did not succeed. -/
structure Verified (config : IntegrityCheckConfig) (walk : List WalkItem) (state : CheckState) : Prop where
  walked : ∀ item ∈ walk, item.entry.isSome = true
  dispatched : (state.history.map Checked.entry).Perm (walk.filterMap WalkItem.entry)
  compared : ∀ checked ∈ state.history, checked.compared.isSome = true
  counted : ∀ kind, state.checked kind =
    (walk.filterMap WalkItem.entry).countP (fun entry => entryType entry = kind)
  announced : state.broadcasts.Perm (state.history.map (Checked.message config.autoFix))
  reported : state.issues.Perm (state.history.filterMap (Checked.issue config.autoFix))
  issue : ∀ checked ∈ state.history, (checked.issue config.autoFix).isSome = true ↔
    checked.compared ≠ some (.ok ())
  passed : state.issues = [] → ∀ entry ∈ walk.filterMap WalkItem.entry,
    ∃ checked ∈ state.history, checked.entry = entry ∧ checked.compared = some (.ok ())

theorem Accounted.verified {config : IntegrityCheckConfig} {walk : List WalkItem} {state : CheckState}
    (accounted : state.Accounted config walk)
    (comparable : ∀ entry ∈ walk.filterMap WalkItem.entry, entryType entry = .dir →
      config.holdsDirectoryObjects = false)
    (uncancelled : ∀ checked ∈ state.history, checked.compared ≠ some (.error .cancelled)) :
    state.Verified config walk := by
  have compared : ∀ checked ∈ state.history, checked.compared.isSome = true := by
    intro checked member
    have known : checked.entry ∈ walk.filterMap WalkItem.entry :=
      accounted.dispatched.subset (List.mem_map_of_mem member)
    rw [Option.isSome_iff_ne_none]
    intro skipped
    obtain ⟨directory, objects⟩ := (accounted.skipped checked member).mp skipped
    rw [comparable _ known directory] at objects
    cases objects
  refine ⟨accounted.walked, accounted.dispatched, compared, accounted.counted, accounted.announced,
    accounted.reported, fun checked member => ?_, fun empty entry member => ?_⟩
  · rw [accounted.issue checked member]
    obtain ⟨result, outcome⟩ := Option.isSome_iff_exists.mp (compared checked member)
    have notCancelled := uncancelled checked member
    rw [outcome] at notCancelled ⊢
    cases result with
    | ok equal => simp
    | error error => simpa using notCancelled
  · obtain ⟨checked, inHistory, same⟩ := List.mem_map.mp (accounted.dispatched.symm.subset member)
    refine ⟨checked, inHistory, same, ?_⟩
    rcases accounted.passed empty checked inHistory with skipped | equal | cancelled
    · have some_ := compared checked inHistory
      rw [skipped] at some_
      cases some_
    · exact equal
    · exact absurd cancelled (uncancelled checked inHistory)

/-- A successful check verified the walk if a worker opened its storages and went on to the
end, none panicked in the middle of an entry, no comparison was cancelled, and no directory
met a destination that holds directories as objects. -/
theorem integrity_check_verifies (config : IntegrityCheckConfig) (walk : List WalkItem)
    (actions : List CheckAction) (final : CheckState)
    (run : (integrityCheck config).exec (initial config walk) actions = some final)
    (succeeded : final.succeeded = some true)
    (opened : ∃ worker, .createStorages worker true ∈ actions ∧ .panic worker ∉ actions)
    (calm : (integrityCheck config).Along Calm (initial config walk) actions)
    (uncancelled : ∀ worker setMetadata, .compare worker (.error .cancelled) setMetadata ∉ actions)
    (comparable : ∀ entry ∈ walk.filterMap WalkItem.entry, entryType entry = .dir →
      config.holdsDirectoryObjects = false) : final.Verified config walk :=
  (integrity_check_accounts config walk actions final run succeeded opened calm).verified comparable
    (compared_run run uncancelled)

section Samples

def checkedEntry (path : RelativePath) (kind : EntryKind) : ObservedEntry :=
  .new path kind none none .local none

def checkedWalk : List WalkItem :=
  [.scanned (checkedEntry ['d'] .directory), .scanned (checkedEntry ['f'] .file),
    .scanned (checkedEntry ['g'] .file)]

def localCheck : IntegrityCheckConfig where
  autoFix := true
  holdsDirectoryObjects := false
  checkConcurrency := 3

/-- The first worker has no storages and the second panics before its first entry; the
third compares a directory, an equal file and a file of another mode. -/
def lastWorkerChecks : List CheckAction :=
  [.createStorages 0 false, .createStorages 1 true, .observe, .send, .panic 1, .createStorages 2 true,
    .next 2, .compare 2 (.ok ()) true, .observe, .send, .pushIssue 2, .count 2, .broadcast 2,
    .next 2, .observe, .compare 2 (.ok ()) true, .pushIssue 2, .count 2, .broadcast 2, .send, .endWalk,
    .next 2, .compare 2 (.error (.mismatchMeta [.mode])) true, .pushIssue 2, .count 2, .broadcast 2,
    .next 2, .finish]

theorem integrity_check_verifies_lastWorker :
    ∃ final, (integrityCheck localCheck).exec (initial localCheck checkedWalk) lastWorkerChecks =
        some final ∧ final.issues.length = 1 ∧ final.Verified localCheck checkedWalk := by
  refine ⟨_, rfl, rfl, integrity_check_verifies localCheck checkedWalk lastWorkerChecks _ rfl rfl
    ⟨2, by simp [lastWorkerChecks]⟩ (by decide) (fun worker setMetadata => by simp [lastWorkerChecks])
    fun _ _ _ => rfl⟩

/-- No worker has storages: the check succeeds, and the file it walked past is not compared. -/
theorem unopened_check_passes :
    ¬∀ (config : IntegrityCheckConfig) (walk : List WalkItem) (actions : List CheckAction)
        (final : CheckState), 1 ≤ config.checkConcurrency →
      (integrityCheck config).exec (initial config walk) actions = some final →
      final.succeeded = some true → final.Verified config walk := by
  intro claim
  have verified := claim ⟨false, false, 2⟩ [.scanned (checkedEntry ['f'] .file)]
    [.createStorages 0 false, .observe, .send, .createStorages 1 false, .endWalk, .finish] _ (by decide)
    rfl rfl
  exact absurd verified.dispatched.length_eq (by decide)

end Samples

end CheckState

end Terrasync.App
