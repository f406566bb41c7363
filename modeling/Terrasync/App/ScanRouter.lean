import Terrasync.App.ScanWriters

/-! The router and its workers move as one writer. A place belongs to one worker, and what the
router took for it waits there in order: in the worker's hands, in its channel, in the chunk
that the router gathers, and in the delivery that it is dispatching. -/

set_option autoImplicit false

namespace Terrasync.App.ScanPipeline

open Lib (Delivery Stage contents)
open Scan (sortBatch)

/-! ### What is where -/

def Worker.load (worker : Worker) : Entries := worker.writer.held ++ contents worker.queue

/-- What a worker holds and what is gathered for it. -/
def share (workers : List Worker) (pending : List Entries) (index : Nat) : Entries :=
  (workers[index]?).elim [] Worker.load ++ pending.getD index []

namespace RouterPhase

/-- The entries of the delivery that is being dispatched. -/
def rest : RouterPhase → Entries
  | .delivering _ rest => rest
  | _ => []

/-- The barrier in the router's hands. -/
def handling : RouterPhase → Option Nat
  | .flushing _ answer => answer
  | .announcing _ answer | .awaiting _ answer => some answer
  | _ => none

/-- The workers that have their barrier. -/
def announced (index : Nat) : RouterPhase → Bool
  | .announcing told _ => decide (index < told)
  | .awaiting _ _ => true
  | _ => false

/-- Below this index no chunk is gathered. -/
def flushed : RouterPhase → Nat
  | .flushing index _ => index
  | .announcing _ _ | .awaiting _ _ => workerCount
  | _ => 0

/-- Below this index the workers have answered. -/
def heard : RouterPhase → Nat
  | .awaiting index _ => index
  | _ => 0

end RouterPhase

/-- A gathered chunk is cleared. -/
theorem getD_clear (pending : List Entries) (index other : Nat) :
    (pending.set index []).getD other [] = if index = other then [] else pending.getD other [] := by
  rw [List.getD_eq_getElem?_getD, List.getElem?_set, List.getD_eq_getElem?_getD]
  split
  · split <;> rfl
  · rfl

section Shares

variable {workers : List Worker} {pending : List Entries} {worker next : Worker} {index other : Nat}

theorem share_set_other (elsewhere : index ≠ other) :
    share (workers.set index next) pending other = share workers pending other := by
  rw [share, share, List.getElem?_set_ne elsewhere]

theorem share_set (current : workers[index]? = some worker) :
    share (workers.set index next) pending index = next.load ++ pending.getD index [] := by
  obtain ⟨inside, -⟩ := List.getElem?_eq_some_iff.1 current
  rw [share, List.getElem?_set_self inside, Option.elim_some]

theorem share_eq (current : workers[index]? = some worker) :
    share workers pending index = worker.load ++ pending.getD index [] := by
  rw [share, current, Option.elim_some]

/-- A worker that changes its load for the same one. -/
theorem share_set_same (current : workers[index]? = some worker) (same : next.load = worker.load) :
    share (workers.set index next) pending other = share workers pending other := by
  by_cases here : index = other
  · subst here
    rw [share_set current, share_eq current, same]
  · exact share_set_other here

/-- The gathered chunk of a worker goes into its channel. -/
theorem share_deliver (current : workers[index]? = some worker)
    (loaded : next.load = worker.load ++ pending.getD index []) :
    share (workers.set index next) (pending.set index []) other = share workers pending other := by
  by_cases here : index = other
  · subst here
    rw [share_set current, share_eq current, loaded, getD_clear, if_pos rfl, List.append_nil]
  · rw [share_set_other here, share, share, getD_clear, if_neg here]

end Shares

/-! ### Dispatching -/

section Dispatch

variable {hash : RelativePath → Nat}

/-- The worker of a place. -/
def workerAt (hash : RelativePath → Nat) (here : Place) : Nat := hash here.2 % workerCount

theorem workerOf_lt (entry : ObservedEntry) : workerOf hash entry < workerCount :=
  Nat.mod_lt _ (by decide)

theorem workerAt_lt (here : Place) : workerAt hash here < workerCount :=
  Nat.mod_lt _ (by decide)

/-- Entries for another worker are not at the place. -/
theorem entriesAt_elsewhere {here : Place} {entries : Entries} {index : Nat}
    (own : ∀ entry ∈ entries, workerOf hash entry = index) (elsewhere : index ≠ workerAt hash here) :
    entriesAt here entries = [] := by
  apply Lib.atPlace_eq_nil
  intro entry member same
  apply elsewhere
  rw [← own entry member, ← same]
  rfl

/-- The chunks after an entry was pushed. -/
theorem getD_set_chunk {pending : List Entries} {index other : Nat} (inside : index < pending.length)
    (chunk : Entries) :
    (pending.set index chunk).getD other [] = if index = other then chunk else pending.getD other [] := by
  rw [List.getD_eq_getElem?_getD, List.getElem?_set, List.getD_eq_getElem?_getD]
  split
  · rename_i same
    subst same
    rw [Option.getD_some]
  · rfl

structure Gathered (hash : RelativePath → Nat) (pending : List Entries) : Prop where
  length : pending.length = workerCount
  own : ∀ index, ∀ entry ∈ pending.getD index [], workerOf hash entry = index

theorem Gathered.push {pending : List Entries} (gathered : Gathered hash pending) (entry : ObservedEntry) :
    Gathered hash (pending.set (workerOf hash entry)
      (pending.getD (workerOf hash entry) [] ++ [entry])) := by
  have inside : workerOf hash entry < pending.length := by
    rw [gathered.length]
    exact workerOf_lt entry
  constructor
  · rw [List.length_set, gathered.length]
  · intro index other member
    rw [getD_set_chunk inside] at member
    split at member
    · rename_i same
      rcases List.mem_append.1 member with before | last
      · exact same ▸ gathered.own _ other before
      · rw [List.mem_singleton.1 last, same]
    · exact gathered.own index other member

theorem Gathered.clear {pending : List Entries} (gathered : Gathered hash pending) (index : Nat) :
    Gathered hash (pending.set index []) := by
  constructor
  · rw [List.length_set, gathered.length]
  · intro other entry member
    rw [getD_clear] at member
    split at member
    · exact absurd member List.not_mem_nil
    · exact gathered.own other entry member

/-- Dispatching moves entries into the chunks of their workers. -/
theorem dispatch_spec {pending : List Entries} (gathered : Gathered hash pending) (entries : Entries) :
    Gathered hash (dispatch hash pending entries).1 ∧
      (∀ here, entriesAt here ((dispatch hash pending entries).1.getD (workerAt hash here) []) ++
          entriesAt here (dispatch hash pending entries).2.rest =
        entriesAt here (pending.getD (workerAt hash here) []) ++ entriesAt here entries) ∧
      ((dispatch hash pending entries).2 = .selecting ∨
        ∃ index rest, index < workerCount ∧ (dispatch hash pending entries).2 = .delivering index rest) := by
  induction entries generalizing pending with
  | nil => exact ⟨gathered, fun _ => rfl, .inl rfl⟩
  | cons entry rest ih =>
      have inside : workerOf hash entry < pending.length := by
        rw [gathered.length]
        exact workerOf_lt entry
      have pushed := gathered.push entry
      have moved (here : Place) :
          entriesAt here ((pending.set (workerOf hash entry)
              (pending.getD (workerOf hash entry) [] ++ [entry])).getD (workerAt hash here) []) ++
            entriesAt here rest =
          entriesAt here (pending.getD (workerAt hash here) []) ++ entriesAt here (entry :: rest) := by
        have split : entriesAt here (entry :: rest) = entriesAt here [entry] ++ entriesAt here rest := by
          rw [← entriesAt_append, List.singleton_append]
        rw [getD_set_chunk inside, split, ← List.append_assoc]
        congr 1
        by_cases home : workerOf hash entry = workerAt hash here
        · rw [if_pos home, home, entriesAt_append]
        · have absent : entriesAt here [entry] = [] := by
            refine entriesAt_elsewhere ?_ home
            intro other member
            rw [List.mem_singleton.1 member]
          rw [if_neg home, absent, List.append_nil]
      rw [dispatch]
      split
      · exact ⟨pushed, moved, .inr ⟨_, rest, workerOf_lt entry, rfl⟩⟩
      · obtain ⟨kept, ordered, phase⟩ := ih pushed
        exact ⟨kept, fun here => (ordered here).trans (moved here), phase⟩

end Dispatch

/-! ### The lanes of the workers -/

/-- Every worker has only entries of its own, and its channel is at the stage of its barrier. -/
structure Lanes (hash : RelativePath → Nat) (ticket : Nat) (announced : Nat → Bool) (workers : List Worker) :
    Prop where
  length : workers.length = workerCount
  own : ∀ index worker, workers[index]? = some worker → ∀ entry ∈ worker.load, workerOf hash entry = index
  stage : ∀ index worker, workers[index]? = some worker →
    Stage ticket worker.queue worker.writer.handling worker.acknowledged (worker.writer.held = [])
      (announced index)

section Lanes

variable {hash : RelativePath → Nat} {ticket index : Nat} {announced later : Nat → Bool}
variable {workers : List Worker} {worker next : Worker}

theorem Lanes.replace (lanes : Lanes hash ticket announced workers) (current : workers[index]? = some worker)
    (own : ∀ entry ∈ next.load, workerOf hash entry = index)
    (stage : Stage ticket next.queue next.writer.handling next.acknowledged (next.writer.held = []) (later index))
    (others : ∀ other, other ≠ index → later other = announced other) :
    Lanes hash ticket later (workers.set index next) := by
  have found_here (found : Worker) (known : (workers.set index next)[index]? = some found) : next = found := by
    rw [List.getElem?_set_self (List.getElem?_eq_some_iff.1 current).1] at known
    exact Option.some.inj known
  constructor
  · rw [List.length_set, lanes.length]
  · intro other found known
    by_cases here : index = other
    · subst here
      rw [← found_here found known]
      exact own
    · rw [List.getElem?_set_ne here] at known
      exact lanes.own other found known
  · intro other found known
    by_cases here : index = other
    · subst here
      rw [← found_here found known]
      exact stage
    · rw [List.getElem?_set_ne here] at known
      rw [others other (Ne.symm here)]
      exact lanes.stage other found known

theorem Lanes.rename (lanes : Lanes hash ticket announced workers)
    (same : ∀ index, index < workerCount → later index = announced index) :
    Lanes hash ticket later workers := by
  refine ⟨lanes.length, lanes.own, ?_⟩
  intro index worker known
  have inside := (List.getElem?_eq_some_iff.1 known).1
  rw [same index (lanes.length ▸ inside)]
  exact lanes.stage index worker known

/-- All workers have answered, so none of them holds anything. -/
theorem Lanes.heard (lanes : Lanes hash ticket announced workers)
    (answered : ∀ (index : Nat) (worker : Worker), workers[index]? = some worker → ticket ∈ worker.acknowledged) :
    Lanes hash (ticket + 1) (fun _ => false) workers ∧
      ∀ (index : Nat) (worker : Worker), workers[index]? = some worker → worker.load = [] := by
  constructor
  · refine ⟨lanes.length, lanes.own, ?_⟩
    intro index worker known
    exact ((lanes.stage index worker known).heard (answered index worker known) _).1
  · intro index worker known
    obtain ⟨-, empty, -, none_held⟩ := (lanes.stage index worker known).heard (answered index worker known) True
    rw [Worker.load, none_held, empty, Lib.contents_nil, List.nil_append]

end Lanes

/-! ### The steps -/

namespace Router

/-- What holds of the router and its workers while none of them has failed. -/
structure Sound (hash : RelativePath → Nat) (router : Router) : Prop where
  gathered : Gathered hash router.pending
  lanes : Lanes hash router.ticket (fun index => router.phase.announced index) router.workers
  flushed : ∀ index, index < router.phase.flushed → router.pending.getD index [] = []
  heard : ∀ index worker, index < router.phase.heard → router.workers[index]? = some worker →
    router.ticket ∈ worker.acknowledged

/-- The entries of a place that the router took and no worker has written. -/
def heldAt (hash : RelativePath → Nat) (router : Router) (here : Place) : Entries :=
  entriesAt here (share router.workers router.pending (workerAt hash here)) ++
    entriesAt here router.phase.rest

section Step

variable {hash : RelativePath → Nat} {batchSize : Nat} {router after : Router} {port next : Port}

theorem new_sound : (Router.new).Sound hash where
  gathered := by
    constructor
    · rfl
    · intro index entry member
      have empty : (Router.new).pending.getD index [] = [] := by
        simp only [Router.new, List.getD_eq_getElem?_getD, List.getElem?_replicate]
        split <;> rfl
      rw [empty] at member
      exact absurd member List.not_mem_nil
  lanes := by
    have known (index : Nat) (worker : Worker) (found : (Router.new).workers[index]? = some worker) :
        worker = ⟨[], [], .new⟩ := by
      rw [Router.new, List.getElem?_replicate] at found
      split at found
      · exact (Option.some.inj found).symm
      · cases found
    constructor
    · rfl
    · intro index worker found entry member
      rw [known index worker found] at member
      exact absurd member List.not_mem_nil
    · intro index worker found
      rw [known index worker found]
      exact .fresh
  flushed := by
    intro index below
    exact absurd below (Nat.not_lt_zero index)
  heard := by
    intro index worker below
    exact absurd below (Nat.not_lt_zero index)

theorem new_heldAt (here : Place) : (Router.new).heldAt hash here = [] := by
  have empty : share (Router.new).workers (Router.new).pending (workerAt hash here) = [] := by
    simp only [share, Router.new, List.getElem?_replicate, List.getD_eq_getElem?_getD]
    split <;> rfl
  rw [heldAt, empty]
  rfl

theorem tell_spec {index : Nat} {delivery : Delivery ObservedEntry} {workers : List Worker}
    (told : router.tell batchSize index delivery = some workers) :
    ∃ worker, router.workers[index]? = some worker ∧
      workers = router.workers.set index { worker with queue := worker.queue ++ [delivery] } := by
  unfold tell at told
  split at told
  · rename_i worker current
    split at told
    · exact ⟨worker, current, (Option.some.inj told).symm⟩
    · cases told
  · cases told

/-- The router between two deliveries, or at a full chunk. -/
theorem sound_goOn {workers : List Worker} {pending : List Entries} {ticket : Nat} {phase : RouterPhase}
    (gathered : Gathered hash pending) (lanes : Lanes hash ticket (fun _ => false) workers)
    (quiet : phase = .selecting ∨ ∃ index rest, index < workerCount ∧ phase = .delivering index rest) :
    Sound hash ⟨phase, pending, workers, ticket⟩ ∧ phase.handling = none := by
  obtain rfl | ⟨index, rest, -, rfl⟩ := quiet
  · exact ⟨⟨gathered, lanes, fun _ below => absurd below (Nat.not_lt_zero _),
      fun _ _ below => absurd below (Nat.not_lt_zero _)⟩, rfl⟩
  · exact ⟨⟨gathered, lanes, fun _ below => absurd below (Nat.not_lt_zero _),
      fun _ _ below => absurd below (Nat.not_lt_zero _)⟩, rfl⟩

/-- The gathered chunk of a worker is sent to it. -/
theorem deliver_spec {index : Nat} {workers : List Worker} {announced : Nat → Bool}
    (gathered : Gathered hash router.pending) (lanes : Lanes hash router.ticket announced router.workers)
    (open_ : announced index = false)
    (told : router.tell batchSize index (.data (router.pending.getD index [])) = some workers) :
    Lanes hash router.ticket announced workers ∧
      ∀ other, share workers (router.pending.set index []) other = share router.workers router.pending other := by
  obtain ⟨worker, current, rfl⟩ := tell_spec told
  have loaded : Worker.load { worker with
      queue := worker.queue ++ [.data (router.pending.getD index [])] } =
        worker.load ++ router.pending.getD index [] := by
    simp only [Worker.load, Lib.contents_append, Lib.contents_cons, Lib.contents_nil, List.append_nil,
      Delivery.items, List.append_assoc]
  refine ⟨?_, fun other => share_deliver current loaded⟩
  have stage := lanes.stage index worker current
  rw [open_] at stage
  apply lanes.replace current
  · rw [loaded]
    intro entry member
    rcases List.mem_append.1 member with before | chunk
    · exact lanes.own index worker current entry before
    · exact gathered.own index entry chunk
  · rw [open_]
    exact stage.send _ _
  · intro other _
    rfl

theorem selecting_moves (sound : router.Sound hash) (phase : router.phase = .selecting)
    (stepped : router.step hash batchSize port = some (after, next)) :
    Moves port (router.heldAt hash) router.phase.handling next (after.heldAt hash) after.phase.handling ∧
      after.Sound hash := by
  have lanes : Lanes hash router.ticket (fun _ => false) router.workers := by
    have lanes := sound.lanes
    rw [phase] at lanes
    exact lanes
  have held (here : Place) : router.heldAt hash here =
      entriesAt here (share router.workers router.pending (workerAt hash here)) := by
    rw [heldAt, phase]
    exact List.append_nil _
  have asking (answer : Option Nat) :
      Sound hash { router with phase := .flushing 0 answer } :=
    ⟨sound.gathered, lanes, fun _ below => absurd below (Nat.not_lt_zero _),
      fun _ _ below => absurd below (Nat.not_lt_zero _)⟩
  simp only [step, phase] at stepped
  split at stepped
  · cases stepped
  · cases asked : port.control with
    | some command =>
        rw [asked] at stepped
        obtain ⟨saved, executed, same⟩ := Option.map_eq_some_iff.1 stepped
        cases same
        rw [phase]
        exact ⟨.executes asked executed rfl fun _ => rfl, sound⟩
    | none =>
        rw [asked] at stepped
        obtain ⟨⟨delivery, rest⟩, taken, same⟩ := Option.map_eq_some_iff.1 stepped
        obtain ⟨first, rfl, split⟩ | ⟨rfl, empty, rfl, -⟩ := received_some taken
        · cases first with
          | data entries =>
              cases same
              obtain ⟨gathered, ordered, quiet⟩ := dispatch_spec sound.gathered entries
              obtain ⟨kept, idle⟩ := sound_goOn gathered lanes quiet
              refine ⟨?_, kept⟩
              dsimp only [goOn]
              rw [phase, idle]
              apply Moves.takes split
              intro here
              rw [held, heldAt, share, entriesAt_append, List.append_assoc, ordered here, share,
                entriesAt_append, List.append_assoc]
          | barrier ticket =>
              cases same
              refine ⟨?_, asking _⟩
              rw [phase]
              apply Moves.hears split
              intro here
              rw [held]
              exact List.append_nil _
        · cases same
          refine ⟨?_, asking _⟩
          rw [phase]
          dsimp only
          rw [show port.take [] = port by rw [← empty]; rfl]
          apply Moves.stays
          intro here
          rw [held]
          exact List.append_nil _

/-- A step of the router that shows nothing outside. -/
theorem stays {before later : RouterPhase} {workers : List Worker} {pending : List Entries} {ticket : Nat}
    (phase : router.phase = before)
    (same : ∀ other, share workers pending other = share router.workers router.pending other)
    (rest : later.rest = before.rest) (handling : later.handling = before.handling) :
    Moves port (router.heldAt hash) before.handling port
      (Router.heldAt hash ⟨later, pending, workers, ticket⟩) later.handling := by
  rw [handling]
  apply Moves.stays
  intro here
  rw [heldAt, heldAt, same, rest, phase]

theorem step_moves (sound : router.Sound hash) (stepped : router.step hash batchSize port = some (after, next)) :
    Moves port (router.heldAt hash) router.phase.handling next (after.heldAt hash) after.phase.handling ∧
      after.Sound hash := by
  have lanes := sound.lanes
  have flushed := sound.flushed
  have heard := sound.heard
  cases phase : router.phase with
  | selecting =>
      rw [← phase]
      exact selecting_moves sound phase stepped
  | delivering index rest =>
      simp only [step, phase] at stepped
      obtain ⟨workers, told, same⟩ := Option.map_eq_some_iff.1 stepped
      cases same
      rw [phase] at lanes
      obtain ⟨kept, shares⟩ := deliver_spec sound.gathered lanes rfl told
      obtain ⟨gathered, ordered, quiet⟩ := dispatch_spec (sound.gathered.clear index) rest
      obtain ⟨later, idle⟩ := sound_goOn gathered kept quiet
      refine ⟨?_, later⟩
      dsimp only [goOn]
      rw [idle]
      apply Moves.stays
      intro here
      rw [heldAt, heldAt, phase, share, entriesAt_append, List.append_assoc, ordered here,
        ← List.append_assoc, ← entriesAt_append]
      exact congrArg (fun part => entriesAt here part ++ entriesAt here rest) (shares _)
  | flushing index answer =>
      simp only [step, phase] at stepped
      rw [phase] at lanes flushed
      have rename {told : RouterPhase} (none_told : ∀ index, told.announced index = false) {workers : List Worker}
          (kept : Lanes hash router.ticket (fun index => (RouterPhase.flushing index answer).announced index)
            workers) : Lanes hash router.ticket (fun index => told.announced index) workers := by
        apply kept.rename
        intro index _
        rw [none_told]
        rfl
      cases chunk : router.pending[index]? with
      | none =>
          have all : ∀ other, other < workerCount → router.pending.getD other [] = [] := by
            intro other inside
            apply flushed
            have outside := List.getElem?_eq_none_iff.1 chunk
            rw [sound.gathered.length] at outside
            exact Nat.lt_of_lt_of_le inside outside
          rw [chunk] at stepped
          cases answer with
          | some ticket =>
              cases stepped
              refine ⟨stays phase (fun _ => rfl) rfl rfl, sound.gathered,
                rename (fun index => ?_) lanes, all, fun _ _ below => absurd below (Nat.not_lt_zero _)⟩
              exact decide_eq_false (Nat.not_lt_zero index)
          | none =>
              cases stepped
              exact ⟨stays phase (fun _ => rfl) rfl rfl, sound.gathered,
                rename (fun _ => rfl) lanes, fun _ below => absurd below (Nat.not_lt_zero _),
                fun _ _ below => absurd below (Nat.not_lt_zero _)⟩
      | some chunk' =>
          rw [chunk] at stepped
          have current : router.pending.getD index [] = chunk' := by
            rw [List.getD_eq_getElem?_getD, chunk, Option.getD_some]
          cases chunk' with
          | nil =>
              cases stepped
              refine ⟨stays phase (fun _ => rfl) rfl rfl, sound.gathered,
                rename (fun _ => rfl) lanes, ?_, fun _ _ below => absurd below (Nat.not_lt_zero _)⟩
              intro other below
              rcases Nat.lt_succ_iff_lt_or_eq.1 below with before | rfl
              · exact flushed other before
              · exact current
          | cons first later =>
              obtain ⟨workers, told, same⟩ := Option.map_eq_some_iff.1 stepped
              cases same
              rw [← current] at told
              obtain ⟨kept, shares⟩ := deliver_spec sound.gathered lanes rfl told
              refine ⟨stays phase shares rfl rfl, sound.gathered.clear index,
                rename (fun _ => rfl) kept, ?_, fun _ _ below => absurd below (Nat.not_lt_zero _)⟩
              intro other below
              rw [getD_clear]
              split
              · rfl
              · rename_i elsewhere
                apply flushed
                rcases Nat.lt_succ_iff_lt_or_eq.1 below with before | same
                · exact before
                · exact absurd same.symm elsewhere
  | announcing index answer =>
      simp only [step, phase] at stepped
      rw [phase] at lanes flushed
      split at stepped
      · obtain ⟨workers, told, same⟩ := Option.map_eq_some_iff.1 stepped
        cases same
        obtain ⟨worker, current, rfl⟩ := tell_spec told
        have loaded : Worker.load { worker with queue := worker.queue ++ [.barrier router.ticket] } =
            worker.load := by
          simp only [Worker.load, Lib.contents_append, Lib.contents_cons, Lib.contents_nil, Delivery.items,
            List.append_nil]
        refine ⟨stays phase (fun _ => share_set_same current loaded) rfl rfl,
          sound.gathered, ?_, flushed, fun _ _ below => absurd below (Nat.not_lt_zero _)⟩
        have stage := lanes.stage index worker current
        rw [RouterPhase.announced, decide_eq_false (Nat.lt_irrefl index)] at stage
        apply lanes.replace current
        · rw [loaded]
          exact lanes.own index worker current
        · rw [RouterPhase.announced, decide_eq_true (Nat.lt_succ_self index)]
          exact stage.announce _
        · intro other elsewhere
          simp only [RouterPhase.announced, decide_eq_decide]
          omega
      · rename_i outside
        cases stepped
        refine ⟨stays phase (fun _ => rfl) rfl rfl, sound.gathered, ?_, flushed,
          fun _ _ below => absurd below (Nat.not_lt_zero _)⟩
        apply lanes.rename
        intro other inside
        rw [lanes.length, Nat.not_lt] at outside
        exact (decide_eq_true (Nat.lt_of_lt_of_le inside outside)).symm
  | awaiting index answer =>
      simp only [step, phase] at stepped
      rw [phase] at lanes flushed heard
      cases current : router.workers[index]? with
      | some worker =>
          rw [current] at stepped
          dsimp only at stepped
          split at stepped
          · rename_i acknowledged
            cases stepped
            refine ⟨stays phase (fun _ => rfl) rfl rfl, sound.gathered, lanes, flushed,
              ?_⟩
            intro other found below known
            rcases Nat.lt_succ_iff_lt_or_eq.1 below with before | rfl
            · exact heard other found before known
            · rw [current] at known
              cases known
              exact acknowledged
          · cases stepped
      | none =>
          rw [current] at stepped
          cases stepped
          obtain ⟨later, empty⟩ := lanes.heard fun other found known => heard other found (by
            have inside := (List.getElem?_eq_some_iff.1 known).1
            exact Nat.lt_of_lt_of_le inside (List.getElem?_eq_none_iff.1 current)) known
          obtain ⟨kept, idle⟩ := sound_goOn sound.gathered later (.inl rfl)
          have nothing (here : Place) : entriesAt here
              (share router.workers router.pending (workerAt hash here)) = [] := by
            have load : (router.workers[workerAt hash here]?).elim [] Worker.load = [] := by
              cases known : router.workers[workerAt hash here]? with
              | none => rfl
              | some found => exact empty _ found known
            rw [share, load, flushed _ (workerAt_lt here)]
            rfl
          refine ⟨?_, kept⟩
          apply Moves.answers rfl
          · intro here
            rw [heldAt, nothing, phase]
            exact (List.append_nil _).symm
          · intro here
            rw [heldAt, nothing]
            rfl
  | finished => simp only [step, phase] at stepped; cases stepped
  | failed => simp only [step, phase] at stepped; cases stepped

/-- A worker takes a delivery from its channel. -/
theorem receive_moves {index : Nat} {worker taken : Worker} (sound : router.Sound hash)
    (current : router.workers[index]? = some worker) (closed : Bool)
    (stepped : worker.receive batchSize closed = some taken) :
    Moves port (router.heldAt hash) router.phase.handling port
        (Router.heldAt hash { router with workers := router.workers.set index taken }) router.phase.handling ∧
      Sound hash { router with workers := router.workers.set index taken } := by
  have stage := sound.lanes.stage index worker current
  have own := sound.lanes.own index worker current
  have spec : taken.load = worker.load ∧ taken.acknowledged = worker.acknowledged ∧
      Stage router.ticket taken.queue taken.writer.handling taken.acknowledged (taken.writer.held = [])
        (router.phase.announced index) := by
    unfold Worker.receive at stepped
    split at stepped
    · rename_i receiving
      have idle := BatchWriter.handling_receiving receiving
      obtain ⟨⟨delivery, rest⟩, found, rfl⟩ := Option.map_eq_some_iff.1 stepped
      obtain ⟨first, rfl, split⟩ | ⟨rfl, empty, rfl, -⟩ := received_some found
      · cases first with
        | data entries =>
            obtain ⟨kept, quiet⟩ := BatchWriter.receive_data batchSize receiving entries
            rw [split, idle] at stage
            refine ⟨?_, rfl, ?_⟩
            · simp only [Worker.load, kept, split, Lib.contents_cons, Delivery.items, List.append_assoc]
            · dsimp only
              rw [quiet]
              exact (stage.take_data _).1
        | barrier ticket =>
            obtain ⟨kept, busy⟩ := BatchWriter.receive_barrier batchSize receiving ticket
            rw [split, idle] at stage
            refine ⟨?_, rfl, ?_⟩
            · simp only [Worker.load, kept, split, Lib.contents_cons, Delivery.items, List.nil_append]
            · dsimp only
              rw [busy]
              exact (stage.take_barrier _).1
      · obtain ⟨kept, quiet⟩ := BatchWriter.receive_none batchSize receiving
        rw [empty, idle] at stage
        refine ⟨?_, rfl, ?_⟩
        · simp only [Worker.load, kept, empty]
        · dsimp only
          rw [quiet, kept]
          exact stage
    · cases stepped
  obtain ⟨load, answers, later⟩ := spec
  refine ⟨stays rfl (fun _ => share_set_same current load) rfl rfl, sound.gathered, ?_, sound.flushed, ?_⟩
  · apply sound.lanes.replace current _ later fun _ _ => rfl
    rw [load]
    exact own
  · intro other found below known
    by_cases here : index = other
    · subst here
      rw [List.getElem?_set_self (List.getElem?_eq_some_iff.1 current).1] at known
      rw [← Option.some.inj known, answers]
      exact sound.heard index worker below current
    · rw [List.getElem?_set_ne here] at known
      exact sound.heard other found below known

/-- The flush of a worker returns. -/
theorem flush_moves {index : Nat} {worker written : Worker} {batch : Entries} (sound : router.Sound hash)
    (current : router.workers[index]? = some worker) (stepped : worker.flush batchSize = some (written, batch)) :
    Moves port (router.heldAt hash) router.phase.handling (port.flush batch)
        (Router.heldAt hash { router with workers := router.workers.set index written }) router.phase.handling ∧
      Sound hash { router with workers := router.workers.set index written } := by
  have stage := sound.lanes.stage index worker current
  have own := sound.lanes.own index worker current
  have spec : worker.load = batch ++ written.load ∧
      (∀ ticket ∈ worker.acknowledged, ticket ∈ written.acknowledged) ∧
      Stage router.ticket written.queue written.writer.handling written.acknowledged (written.writer.held = [])
        (router.phase.announced index) := by
    unfold Worker.flush at stepped
    split at stepped
    · rename_i next phase
      obtain ⟨kept, quiet, emptied⟩ := BatchWriter.afterFlush_spec batchSize phase
      cases next with
      | acknowledge ticket =>
          cases stepped
          have busy : worker.writer.handling = some ticket := by simp only [BatchWriter.handling, phase]
          rw [busy] at stage
          refine ⟨?_, fun earlier member => List.mem_cons_of_mem _ member, ?_⟩
          · simp only [Worker.load, kept, List.append_assoc]
          · dsimp only
            rw [quiet]
            exact (stage.acknowledge (emptied (by rw [busy]; rfl))).1
      | entries rest =>
          cases stepped
          have idle : worker.writer.handling = none := by simp only [BatchWriter.handling, phase]
          rw [idle] at stage
          refine ⟨?_, fun earlier member => member, ?_⟩
          · simp only [Worker.load, kept, List.append_assoc]
          · dsimp only
            rw [quiet]
            apply stage.imp
            intro _ _ none_held
            exact (List.append_eq_nil_iff.1 (kept ▸ none_held)).2
      | finish =>
          cases stepped
          have idle : worker.writer.handling = none := by simp only [BatchWriter.handling, phase]
          rw [idle] at stage
          refine ⟨?_, fun earlier member => member, ?_⟩
          · simp only [Worker.load, kept, List.append_assoc]
          · dsimp only
            rw [quiet]
            apply stage.imp
            intro _ _ none_held
            exact (List.append_eq_nil_iff.1 (kept ▸ none_held)).2
    · cases stepped
  obtain ⟨load, answers, later⟩ := spec
  have batchOwn : ∀ entry ∈ batch, workerOf hash entry = index := by
    intro entry member
    apply own
    rw [load]
    exact List.mem_append_left _ member
  constructor
  · apply Moves.flushed
    intro here
    by_cases home : index = workerAt hash here
    · subst home
      simp only [heldAt, share_set current, share_eq current, load, entriesAt_append, List.append_assoc]
    · simp only [heldAt, share_set_other home]
      rw [entriesAt_elsewhere batchOwn home, List.nil_append]
  · refine ⟨sound.gathered, ?_, sound.flushed, ?_⟩
    · apply sound.lanes.replace current _ later fun _ _ => rfl
      intro entry member
      apply own
      rw [load]
      exact List.mem_append_right _ member
    · intro other found below known
      by_cases here : index = other
      · subst here
        rw [List.getElem?_set_self (List.getElem?_eq_some_iff.1 current).1] at known
        rw [← Option.some.inj known]
        exact answers _ (sound.heard index worker below current)
      · rw [List.getElem?_set_ne here] at known
        exact sound.heard other found below known

end Step

end Router

/-! ### Both writers -/

namespace Writer

variable {hash : RelativePath → Nat} {batchSize : Nat} {writer after : Writer} {port next : Port}

def heldAt (hash : RelativePath → Nat) : Writer → Place → Entries
  | .single writer, here => entriesAt here writer.held
  | .routed router, here => router.heldAt hash here

def handling : Writer → Option Nat
  | .single writer => writer.handling
  | .routed router => router.phase.handling

def Sound (hash : RelativePath → Nat) : Writer → Prop
  | .single _ => True
  | .routed router => router.Sound hash

theorem moves {action : WriterAction} (sound : writer.Sound hash)
    (stepped : writer.step hash batchSize port action = some (after, next)) (running : after.failed = false) :
    Moves port (writer.heldAt hash) writer.handling next (after.heldAt hash) after.handling ∧
      after.Sound hash := by
  cases writer with
  | single writer =>
      obtain ⟨later, rfl, moved⟩ := single_moves stepped running
      exact ⟨moved, trivial⟩
  | routed router =>
      cases action with
      | select =>
          obtain ⟨⟨later, saved⟩, found, same⟩ := Option.map_eq_some_iff.1 stepped
          cases same
          exact router.step_moves sound found
      | flush => cases stepped
      | fail =>
          simp only [step] at stepped
          split at stepped
          · cases stepped
          · cases stepped
            simp [failed] at running
      | receive index =>
          simp only [step] at stepped
          split at stepped
          · cases stepped
          · obtain ⟨later, found, same⟩ := Option.map_eq_some_iff.1 stepped
            obtain ⟨worker, current, received⟩ := Option.bind_eq_some_iff.1 found
            cases same
            exact router.receive_moves sound current _ received
      | flushWorker index =>
          simp only [step] at stepped
          obtain ⟨⟨later, batch⟩, found, same⟩ := Option.map_eq_some_iff.1 stepped
          obtain ⟨worker, current, flushed⟩ := Option.bind_eq_some_iff.1 found
          cases same
          exact router.flush_moves sound current flushed
      | failWorker index =>
          simp only [step] at stepped
          obtain ⟨later, found, same⟩ := Option.map_eq_some_iff.1 stepped
          obtain ⟨worker, current, failing⟩ := Option.bind_eq_some_iff.1 found
          cases same
          have lost : later.writer.phase = .failed := by
            unfold Worker.fail at failing
            split at failing
            · cases failing
            · cases failing
              rfl
          have member : later ∈ router.workers.set index later :=
            List.mem_of_getElem? (List.getElem?_set_self (List.getElem?_eq_some_iff.1 current).1)
          have broken : (router.workers.set index later).any
              (fun worker => worker.writer.phase = .failed) = true :=
            List.any_eq_true.2 ⟨later, member, decide_eq_true lost⟩
          simp [failed, broken] at running

/-- A worker that has failed is still there when another one moves. -/
theorem broken_set {workers : List Worker} {index : Nat} {worker : Worker} (later : Worker)
    (current : workers[index]? = some worker)
    (kept : worker.writer.phase = .failed → later.writer.phase = .failed)
    (broken : (workers.any fun worker => worker.writer.phase = .failed) = true) :
    ((workers.set index later).any fun worker => worker.writer.phase = .failed) = true := by
  obtain ⟨found, member, lost⟩ := List.any_eq_true.1 broken
  obtain ⟨other, known⟩ := List.mem_iff_getElem?.1 member
  by_cases here : index = other
  · subst here
    rw [current] at known
    cases known
    have inside := List.getElem?_set_self (a := later) (List.getElem?_eq_some_iff.1 current).1
    exact List.any_eq_true.2 ⟨later, List.mem_of_getElem? inside, decide_eq_true (kept (of_decide_eq_true lost))⟩
  · rw [← List.getElem?_set_ne here] at known
    exact List.any_eq_true.2 ⟨found, List.mem_of_getElem? known, lost⟩

/-- A step of the router repairs no worker. -/
theorem broken_step {router later : Router}
    (stepped : router.step hash batchSize port = some (later, next))
    (broken : (router.workers.any fun worker => worker.writer.phase = .failed) = true) :
    (later.workers.any fun worker => worker.writer.phase = .failed) = true := by
  have told {index : Nat} {delivery : Delivery ObservedEntry} {workers : List Worker}
      (sent : router.tell batchSize index delivery = some workers) :
      (workers.any fun worker => worker.writer.phase = .failed) = true := by
    obtain ⟨worker, current, rfl⟩ := Router.tell_spec sent
    exact broken_set _ current (fun lost => lost) broken
  cases phase : router.phase with
  | selecting =>
      obtain ⟨lost, member, ended⟩ := List.any_eq_true.1 broken
      have stuck : (router.workers.any fun worker => worker.writer.ended) = true := by
        refine List.any_eq_true.2 ⟨lost, member, ?_⟩
        simp only [BatchWriter.ended, of_decide_eq_true ended, decide_true, Bool.or_true]
      simp only [Router.step, phase, stuck, Bool.or_true, if_true] at stepped
      cases stepped
  | delivering index rest =>
      simp only [Router.step, phase] at stepped
      obtain ⟨workers, sent, same⟩ := Option.map_eq_some_iff.1 stepped
      cases same
      exact told sent
  | flushing index answer =>
      simp only [Router.step, phase] at stepped
      split at stepped
      · cases stepped
        exact broken
      · obtain ⟨workers, sent, same⟩ := Option.map_eq_some_iff.1 stepped
        cases same
        exact told sent
      · cases stepped
        exact broken
      · cases stepped
        exact broken
  | announcing index answer =>
      simp only [Router.step, phase] at stepped
      split at stepped
      · obtain ⟨workers, sent, same⟩ := Option.map_eq_some_iff.1 stepped
        cases same
        exact told sent
      · cases stepped
        exact broken
  | awaiting index answer =>
      simp only [Router.step, phase] at stepped
      split at stepped
      · split at stepped
        · cases stepped
          exact broken
        · cases stepped
      · cases stepped
        exact broken
  | finished => simp only [Router.step, phase] at stepped; cases stepped
  | failed => simp only [Router.step, phase] at stepped; cases stepped

/-- A writer that has failed stays failed. -/
theorem failed_of_step {action : WriterAction}
    (stepped : writer.step hash batchSize port action = some (after, next)) (running : after.failed = false) :
    writer.failed = false := by
  cases writer with
  | single writer =>
      cases phase : writer.phase with
      | failed =>
          cases action with
          | select => simp [step, phase] at stepped
          | flush => simp [step, phase] at stepped
          | fail => simp [step, phase, BatchWriter.ended] at stepped
          | receive _ => cases stepped
          | flushWorker _ => cases stepped
          | failWorker _ => cases stepped
      | receiving => simp [failed, phase]
      | flushing _ => simp [failed, phase]
      | finished => simp [failed, phase]
  | routed router =>
      by_contra broken
      simp only [failed, Bool.not_eq_false, Bool.or_eq_true, decide_eq_true_eq] at broken
      cases action with
      | select =>
          obtain ⟨⟨later, saved⟩, found, same⟩ := Option.map_eq_some_iff.1 stepped
          cases same
          rcases broken with lost | lost
          · simp only [Router.step, lost] at found
            cases found
          · simp [failed, broken_step found lost] at running
      | flush => cases stepped
      | fail =>
          simp only [step] at stepped
          split at stepped
          · cases stepped
          · cases stepped
            simp [failed] at running
      | receive index =>
          simp only [step] at stepped
          split at stepped
          · cases stepped
          · obtain ⟨later, found, same⟩ := Option.map_eq_some_iff.1 stepped
            obtain ⟨worker, current, received⟩ := Option.bind_eq_some_iff.1 found
            cases same
            rcases broken with lost | lost
            · simp [failed, lost] at running
            · have kept := broken_set later current (fun lost => by
                simp [Worker.receive, lost] at received) lost
              simp [failed, kept] at running
      | flushWorker index =>
          simp only [step] at stepped
          obtain ⟨⟨later, batch⟩, found, same⟩ := Option.map_eq_some_iff.1 stepped
          obtain ⟨worker, current, flushed⟩ := Option.bind_eq_some_iff.1 found
          cases same
          rcases broken with lost | lost
          · simp [failed, lost] at running
          · have kept := broken_set later current (fun lost => by
              simp [Worker.flush, lost] at flushed) lost
            simp [failed, kept] at running
      | failWorker index =>
          simp only [step] at stepped
          obtain ⟨later, found, same⟩ := Option.map_eq_some_iff.1 stepped
          obtain ⟨worker, current, failing⟩ := Option.bind_eq_some_iff.1 found
          cases same
          rcases broken with lost | lost
          · simp [failed, lost] at running
          · have kept := broken_set later current (fun lost => by
              simp [Worker.fail, BatchWriter.ended, lost] at failing) lost
            simp [failed, kept] at running

/-- Nothing that is saved differs between two ports; the tables may have got further batches. -/
structure SameSaves (port next : Port) : Prop where
  control : next.control = port.control
  reply : next.reply = port.reply
  snapshots : next.database.snapshots = port.database.snapshots
  manifests : next.database.manifests = port.database.manifests
  written : ∃ more, next.database.written = port.database.written ++ more ∧ ∀ batch ∈ more, batch ≠ []

theorem SameSaves.of_database {port next : Port} (control : next.control = port.control)
    (reply : next.reply = port.reply) (database : next.database = port.database) : SameSaves port next := by
  refine ⟨control, reply, by rw [database], by rw [database], [], ?_, fun _ member => nomatch member⟩
  rw [database, List.append_nil]

theorem SameSaves.refl (port : Port) : SameSaves port port := .of_database rfl rfl rfl

theorem sameSaves_flush (port : Port) (batch : Entries) : SameSaves port (port.flush batch) := by
  unfold Port.flush
  split
  · exact .refl port
  · rename_i full
    refine ⟨rfl, rfl, rfl, rfl, [sortBatch batch], rfl, ?_⟩
    intro other member empty
    rw [List.mem_singleton.1 member] at empty
    have nothing : (sortBatch batch).length = batch.length := (List.mergeSort_perm batch _).length_eq
    rw [empty] at nothing
    exact full (List.isEmpty_iff.2 (List.length_eq_zero_iff.1 nothing.symm))

theorem SameSaves.acknowledge {port next : Port} (same : SameSaves port next) (ticket : Nat) :
    SameSaves port (next.acknowledge ticket) :=
  ⟨same.control, same.reply, same.snapshots, same.manifests, same.written⟩

/-- A step leaves what was saved alone, or it executes the command of the producer. -/
theorem step_saves {action : WriterAction}
    (stepped : writer.step hash batchSize port action = some (after, next)) :
    SameSaves port next ∨ (writer.failed = false ∧ after = writer ∧
      ∃ command, port.control = some command ∧ port.execute command = some next) := by
  have same : SameSaves port port := .refl port
  cases writer with
  | single writer =>
      cases action with
      | select =>
          simp only [step] at stepped
          split at stepped
          · cases stepped
          · rename_i free
            cases asked : port.control with
            | some command =>
                rw [asked] at stepped
                obtain ⟨saved, executed, same⟩ := Option.map_eq_some_iff.1 stepped
                cases same
                simp only [Bool.or_eq_true, decide_eq_true_eq, not_or, not_not] at free
                exact .inr ⟨by simp [failed, free.2], rfl, command, rfl, executed⟩
            | none =>
                rw [asked] at stepped
                obtain ⟨taken, found, same⟩ := Option.map_eq_some_iff.1 stepped
                cases same
                exact .inl (.of_database rfl rfl rfl)
      | flush =>
          simp only [step] at stepped
          split at stepped
          · rename_i next phase
            cases stepped
            have flushed := sameSaves_flush port writer.batch
            cases next with
            | entries rest => exact .inl flushed
            | acknowledge ticket => exact .inl (flushed.acknowledge ticket)
            | finish => exact .inl flushed
          · cases stepped
      | fail =>
          simp only [step] at stepped
          split at stepped
          · cases stepped
          · cases stepped
            exact .inl same
      | receive _ => cases stepped
      | flushWorker _ => cases stepped
      | failWorker _ => cases stepped
  | routed router =>
      cases action with
      | select =>
          obtain ⟨⟨later, saved⟩, found, eq⟩ := Option.map_eq_some_iff.1 stepped
          cases eq
          cases phase : router.phase with
          | selecting =>
              simp only [Router.step, phase] at found
              split at found
              · cases found
              · rename_i free
                cases asked : port.control with
                | some command =>
                    rw [asked] at found
                    obtain ⟨written, executed, eq⟩ := Option.map_eq_some_iff.1 found
                    cases eq
                    have running : (router.workers.any fun worker => worker.writer.phase = .failed) = false := by
                      by_contra broken
                      obtain ⟨lost, member, ended⟩ := List.any_eq_true.1 (Bool.not_eq_false _ ▸ broken)
                      apply free
                      rw [Bool.or_eq_true]
                      refine .inr (List.any_eq_true.2 ⟨lost, member, ?_⟩)
                      simp only [BatchWriter.ended, of_decide_eq_true ended, decide_true, Bool.or_true]
                    exact .inr ⟨by simp [failed, phase, running], rfl, command, rfl, executed⟩
                | none =>
                    rw [asked] at found
                    obtain ⟨taken, received, eq⟩ := Option.map_eq_some_iff.1 found
                    cases eq
                    exact .inl (.of_database rfl rfl rfl)
          | delivering index rest =>
              simp only [Router.step, phase] at found
              obtain ⟨workers, -, eq⟩ := Option.map_eq_some_iff.1 found
              cases eq
              exact .inl same
          | flushing index answer =>
              simp only [Router.step, phase] at found
              split at found
              · cases found
                exact .inl same
              · obtain ⟨workers, -, eq⟩ := Option.map_eq_some_iff.1 found
                cases eq
                exact .inl same
              · cases found
                exact .inl same
              · cases found
                exact .inl same
          | announcing index answer =>
              simp only [Router.step, phase] at found
              split at found
              · obtain ⟨workers, -, eq⟩ := Option.map_eq_some_iff.1 found
                cases eq
                exact .inl same
              · cases found
                exact .inl same
          | awaiting index answer =>
              simp only [Router.step, phase] at found
              split at found
              · split at found
                · cases found
                  exact .inl same
                · cases found
              · cases found
                exact .inl (.of_database rfl rfl rfl)
          | finished => simp only [Router.step, phase] at found; cases found
          | failed => simp only [Router.step, phase] at found; cases found
      | flush => cases stepped
      | fail =>
          simp only [step] at stepped
          split at stepped
          · cases stepped
          · cases stepped
            exact .inl same
      | receive index =>
          simp only [step] at stepped
          split at stepped
          · cases stepped
          · obtain ⟨later, -, eq⟩ := Option.map_eq_some_iff.1 stepped
            cases eq
            exact .inl same
      | flushWorker index =>
          simp only [step] at stepped
          obtain ⟨later, -, eq⟩ := Option.map_eq_some_iff.1 stepped
          cases eq
          exact .inl (sameSaves_flush port later.2)
      | failWorker index =>
          simp only [step] at stepped
          obtain ⟨later, -, eq⟩ := Option.map_eq_some_iff.1 stepped
          cases eq
          exact .inl same

end Writer

end Terrasync.App.ScanPipeline
