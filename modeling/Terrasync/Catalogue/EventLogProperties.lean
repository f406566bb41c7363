import Terrasync.Catalogue.EventLog
import Terrasync.Lib.Fallible

/-! Every event of a round keeps the time it was first stored with, and no two events of
one path share a time: after replacement each event is there once. -/

set_option autoImplicit false

namespace Terrasync.Catalogue.EventLog

open Lib (surviving latest bind_eq_ok)

variable {Columns : Type}

/-! ### Times -/

theorem nextTime_ok {time after : Int} (advanced : nextTime time = .ok after) :
    after = time + 1 ∧ time + 1 < 2 ^ 63 := by
  rw [nextTime] at advanced
  split at advanced
  · next fits =>
      cases advanced
      exact ⟨rfl, fits⟩
  · cases advanced

theorem nextTime_of_lt {time : Int} (fits : time + 1 < 2 ^ 63) : nextTime time = .ok (time + 1) := if_pos fits

theorem le_maxTime {times : List Int} {time : Int} (default : Int) (member : time ∈ times) :
    time ≤ maxTime times default := by
  rw [maxTime]
  cases greatest : times.max? with
  | none =>
      rw [List.max?_eq_none_iff.mp greatest] at member
      exact absurd member List.not_mem_nil
  | some most => exact (List.max?_eq_some_iff.mp greatest).2 time member

theorem default_le_maxTime {times : List Int} {default : Int} (later : ∀ time ∈ times, default ≤ time) :
    default ≤ maxTime times default := by
  rw [maxTime]
  cases greatest : times.max? with
  | none => exact Int.le_refl default
  | some most => exact later most (List.max?_eq_some_iff.mp greatest).1

/-- A round begins after all rows there are. -/
theorem epoch_after {now time : Int} {table : EventTable Columns} (epoch : resumeEventEpoch now table = .ok time)
    {row : IncrementalStorageEntryRecord Columns} (member : row ∈ table) : row.createAt < time := by
  obtain ⟨after, advanced, chosen⟩ := bind_eq_ok.mp epoch
  cases chosen
  have most := le_maxTime 0 (List.mem_map_of_mem member : row.createAt ∈ _)
  obtain ⟨rfl, -⟩ := nextTime_ok advanced
  omega

/-! ### The stamps of a call -/

/-- The two loops hand out the same times. -/
theorem stampNative_of_stampResume {times : List (EventId × Int)} {next : Int} {records stamped : EventTable Columns}
    (resumed : stampResume times (next + 1) records = .ok stamped) :
    stampNative times next records = .ok stamped := by
  induction records generalizing times next stamped with
  | nil => exact resumed
  | cons record rest ih =>
      rw [stampResume] at resumed
      rw [stampNative]
      split at resumed
      · next known found =>
          obtain ⟨later, rests, finished⟩ := bind_eq_ok.mp resumed
          cases finished
          exact bind_eq_ok.mpr ⟨_, ih rests, rfl⟩
      · next fresh =>
          obtain ⟨after, advanced, continued⟩ := bind_eq_ok.mp resumed
          obtain ⟨later, rests, finished⟩ := bind_eq_ok.mp continued
          cases finished
          obtain ⟨rfl, fits⟩ := nextTime_ok advanced
          have within : next + 1 < 2 ^ 63 := by omega
          exact bind_eq_ok.mpr ⟨_, nextTime_of_lt within, bind_eq_ok.mpr ⟨_, ih rests, rfl⟩⟩

theorem nativeEvents_of_resumeEvents {time : Int} {table records stamped : EventTable Columns}
    (resumed : resumeEvents time table records = .ok stamped) :
    nativeEvents time table records = .ok stamped := by
  obtain ⟨next, advanced, stamps⟩ := bind_eq_ok.mp resumed
  obtain ⟨rfl, -⟩ := nextTime_ok advanced
  have native := stampNative_of_stampResume stamps
  cases records with
  | nil => exact native
  | cons record rest => exact native

/-- What a call adds to the known times, and what it stamps its rows with. -/
structure Stamps (times : List (EventId × Int)) (next : Int) (records stamped : EventTable Columns)
    (fresh : List (EventId × Int)) : Prop where
  known : ∀ row ∈ stamped, latest Prod.fst (times ++ fresh) row.id = some (row.id, row.createAt)
  paths : ∀ row ∈ stamped, ∃ record ∈ records, record.id = row.id
  increasing : fresh.Pairwise fun first second => first.2 < second.2
  later : ∀ pair ∈ fresh, next < pair.2 ∧ latest Prod.fst times pair.1 = none

theorem stampNative_stamps {times : List (EventId × Int)} {next : Int} {records stamped : EventTable Columns}
    (stamps : stampNative times next records = .ok stamped) : ∃ fresh, Stamps times next records stamped fresh := by
  induction records generalizing times next stamped with
  | nil =>
      cases stamps
      exact ⟨[], nofun, nofun, .nil, nofun⟩
  | cons record rest ih =>
      rw [stampNative] at stamps
      split at stamps
      · next known found =>
          obtain ⟨rows, rests, finished⟩ := bind_eq_ok.mp stamps
          cases finished
          obtain ⟨fresh, tail⟩ := ih rests
          refine ⟨fresh, fun row member => ?_, fun row member => ?_, tail.increasing, tail.later⟩
          · rcases List.mem_cons.mp member with rfl | inside
            · have unseen : latest Prod.fst fresh record.id = none := by
                refine Lib.latest_eq_none.mpr fun pair among same => ?_
                have missing := (tail.later pair among).2
                rw [same, found] at missing
                cases missing
              have named := Lib.key_of_latest found
              rw [Lib.latest_append]
              change (latest Prod.fst fresh record.id).or (latest Prod.fst times record.id) = _
              rw [unseen, found, Option.none_or]
              exact congrArg some (Prod.ext named rfl)
            · exact tail.known row inside
          · rcases List.mem_cons.mp member with rfl | inside
            · exact ⟨record, List.mem_cons_self, rfl⟩
            · obtain ⟨other, among, same⟩ := tail.paths row inside
              exact ⟨other, List.mem_cons_of_mem _ among, same⟩
      · next missing =>
          obtain ⟨time, advanced, continued⟩ := bind_eq_ok.mp stamps
          obtain ⟨rows, rests, finished⟩ := bind_eq_ok.mp continued
          cases finished
          obtain ⟨rfl, -⟩ := nextTime_ok advanced
          obtain ⟨fresh, tail⟩ := ih rests
          have apart {pair : EventId × Int} (among : pair ∈ fresh) :
              latest Prod.fst times pair.1 = none ∧ pair.1 ≠ record.id := by
            have unseen := Lib.latest_eq_none.mp (tail.later pair among).2
            exact ⟨Lib.latest_eq_none.mpr fun other inside => unseen other (List.mem_append_left _ inside),
              fun same => unseen (record.id, next + 1) (List.mem_append_right _ List.mem_cons_self) same.symm⟩
          refine ⟨(record.id, next + 1) :: fresh, fun row member => ?_, fun row member => ?_,
            List.pairwise_cons.mpr ⟨fun pair among => (tail.later pair among).1, tail.increasing⟩,
            fun pair member => ?_⟩
          · rw [List.append_cons]
            rcases List.mem_cons.mp member with rfl | inside
            · have unseen : latest Prod.fst fresh record.id = none :=
                Lib.latest_eq_none.mpr fun pair among => (apart among).2
              rw [Lib.latest_append, Lib.latest_append]
              change (latest Prod.fst fresh record.id).or _ = _
              rw [unseen, Option.none_or]
              change (latest Prod.fst [(record.id, next + 1)] record.id).or _ = _
              simp [latest, IncrementalStorageEntryRecord.id]
            · exact tail.known row inside
          · rcases List.mem_cons.mp member with rfl | inside
            · exact ⟨record, List.mem_cons_self, rfl⟩
            · obtain ⟨other, among, same⟩ := tail.paths row inside
              exact ⟨other, List.mem_cons_of_mem _ among, same⟩
          · rcases List.mem_cons.mp member with rfl | inside
            · exact ⟨by simp only; omega, missing⟩
            · have later := (tail.later pair inside).1
              exact ⟨by omega, (apart inside).1⟩

/-! ### The table of a round -/

/-- What holds of the table all through a round. -/
structure Stamped (time : Int) (before table : EventTable Columns) : Prop where
  earlier : ∀ row ∈ before, row.createAt < time
  after : ∀ row ∈ table, row ∈ before ∨ time < row.createAt
  /-- Events of one path have different times. -/
  apart : ∀ first ∈ table, ∀ second ∈ table, time ≤ first.createAt → time ≤ second.createAt →
    first.relativePath = second.relativePath → first.createAt = second.createAt → first.id = second.id
  /-- An event has one time. -/
  stable : ∀ first ∈ table, ∀ second ∈ table, time ≤ first.createAt → time ≤ second.createAt →
    first.id = second.id → first.createAt = second.createAt

theorem id_relativePath {first second : IncrementalStorageEntryRecord Columns} (same : first.id = second.id) :
    first.relativePath = second.relativePath := congrArg EventId.relativePath same

theorem existing_mem {time : Int} {table records : EventTable Columns} {row : IncrementalStorageEntryRecord Columns}
    (member : row ∈ existing time table records) : row ∈ table ∧ time ≤ row.createAt := by
  obtain ⟨final, wanted⟩ := List.mem_filter.mp member
  rw [Bool.and_eq_true] at wanted
  exact ⟨Lib.mem_of_latest (Lib.mem_surviving.mp final), of_decide_eq_true wanted.1⟩

section Round

variable {time : Int} {before table records stamped : EventTable Columns}

/-- Replacement hides no event of the round. -/
theorem Stamped.shown (holds : Stamped time before table) {row : IncrementalStorageEntryRecord Columns}
    (member : row ∈ table) (round : time ≤ row.createAt) :
    ∃ final ∈ surviving IncrementalStorageEntryRecord.key table, final.id = row.id ∧
      final.createAt = row.createAt := by
  obtain ⟨final, found⟩ := Option.isSome_iff_exists.mp
    (Lib.latest_isSome member : (latest IncrementalStorageEntryRecord.key table row.key).isSome = true)
  have inside := Lib.mem_of_latest found
  have key := Lib.key_of_latest found
  have operation : final.operationType = row.operationType := congrArg Prod.fst key
  have path : final.relativePath = row.relativePath := congrArg (fun key => key.2.1) key
  have createAt : final.createAt = row.createAt := congrArg (fun key => key.2.2) key
  refine ⟨final, Lib.mem_surviving.mpr (key ▸ found), ?_, createAt⟩
  exact holds.apart final inside row member (createAt ▸ round) round path createAt

/-- The times that a call finds are those of the stored events of its paths. -/
theorem Stamped.known (holds : Stamped time before table) {row : IncrementalStorageEntryRecord Columns}
    (member : row ∈ table) (round : time ≤ row.createAt)
    (path : row.relativePath ∈ records.map IncrementalStorageEntryRecord.relativePath) :
    latest Prod.fst (existingTimes (existing time table records)) row.id = some (row.id, row.createAt) := by
  have unique : ∀ first ∈ existingTimes (existing time table records),
      ∀ second ∈ existingTimes (existing time table records), first.1 = second.1 → first = second := by
    intro first here second there same
    obtain ⟨one, inside, rfl⟩ := List.mem_map.mp here
    obtain ⟨other, also, rfl⟩ := List.mem_map.mp there
    obtain ⟨stored, since⟩ := existing_mem inside
    obtain ⟨kept, from_⟩ := existing_mem also
    exact Prod.ext same (holds.stable one stored other kept since from_ same)
  obtain ⟨final, survives, id, createAt⟩ := holds.shown member round
  refine (Lib.latest_iff_of_unique unique).mpr ⟨List.mem_map.mpr ⟨final, List.mem_filter.mpr ⟨survives, ?_⟩, ?_⟩, rfl⟩
  · rw [Bool.and_eq_true]
    exact ⟨decide_eq_true (createAt ▸ round), List.contains_iff_mem.mpr (id_relativePath id ▸ path)⟩
  · rw [id, createAt]

/-- A call that stamps its rows, seen from the table. -/
theorem nativeEvents_stamps (written : nativeEvents time table records = .ok stamped) :
    ∃ fresh, Stamps (existingTimes (existing time table records))
      (maxTime ((existing time table records).map IncrementalStorageEntryRecord.createAt) time)
      records stamped fresh := by
  rw [nativeEvents] at written
  split at written
  · cases written
    exact ⟨[], nofun, nofun, .nil, nofun⟩
  · exact stampNative_stamps written

theorem later_than_round {fresh : List (EventId × Int)}
    (stamps : Stamps (existingTimes (existing time table records))
      (maxTime ((existing time table records).map IncrementalStorageEntryRecord.createAt) time)
      records stamped fresh) {pair : EventId × Int} (member : pair ∈ fresh) : time < pair.2 := by
  have most := @default_le_maxTime ((existing time table records).map IncrementalStorageEntryRecord.createAt)
    time (by
      intro createAt inside
      obtain ⟨row, among, rfl⟩ := List.mem_map.mp inside
      exact (existing_mem among).2)
  have beyond := (stamps.later pair member).1
  omega

theorem existing_le {fresh : List (EventId × Int)}
    (stamps : Stamps (existingTimes (existing time table records))
      (maxTime ((existing time table records).map IncrementalStorageEntryRecord.createAt) time)
      records stamped fresh) {row : IncrementalStorageEntryRecord Columns}
    (inside : row ∈ existing time table records) {pair : EventId × Int} (member : pair ∈ fresh) :
    row.createAt < pair.2 := by
  have most := le_maxTime time (List.mem_map_of_mem inside :
    row.createAt ∈ (existing time table records).map IncrementalStorageEntryRecord.createAt)
  have beyond := (stamps.later pair member).1
  omega

/-- The times of a call, found and handed out, tell the events of a path apart. -/
theorem Stamped.separate (holds : Stamped time before table) {fresh : List (EventId × Int)}
    (stamps : Stamps (existingTimes (existing time table records))
      (maxTime ((existing time table records).map IncrementalStorageEntryRecord.createAt) time)
      records stamped fresh) {first second : EventId × Int}
    (here : first ∈ existingTimes (existing time table records) ++ fresh)
    (there : second ∈ existingTimes (existing time table records) ++ fresh)
    (path : first.1.relativePath = second.1.relativePath) (times : first.2 = second.2) : first.1 = second.1 := by
  rcases List.mem_append.mp here with found | handed <;> rcases List.mem_append.mp there with known | given
  · obtain ⟨one, inside, rfl⟩ := List.mem_map.mp found
    obtain ⟨other, also, rfl⟩ := List.mem_map.mp known
    obtain ⟨stored, since⟩ := existing_mem inside
    obtain ⟨kept, from_⟩ := existing_mem also
    exact holds.apart one stored other kept since from_ path times
  · obtain ⟨one, inside, rfl⟩ := List.mem_map.mp found
    have before_ := existing_le stamps inside given
    simp only at times
    omega
  · obtain ⟨other, also, rfl⟩ := List.mem_map.mp known
    have before_ := existing_le stamps also handed
    simp only at times
    omega
  · have distinct : (fresh.map Prod.snd).Nodup :=
      List.pairwise_map.mpr (stamps.increasing.imp fun smaller => Int.ne_of_lt smaller)
    exact congrArg Prod.fst (List.inj_on_of_nodup_map distinct handed given times)

/-- A stored event is written again with the time it has. -/
theorem Stamped.rewritten (holds : Stamped time before table)
    (written : nativeEvents time table records = .ok stamped)
    {row stored : IncrementalStorageEntryRecord Columns} (among : row ∈ stamped) (member : stored ∈ table)
    (round : time ≤ stored.createAt) (same : row.id = stored.id) : row.createAt = stored.createAt := by
  obtain ⟨fresh, stamps⟩ := nativeEvents_stamps written
  obtain ⟨record, asked, named⟩ := stamps.paths row among
  have path : stored.relativePath ∈ records.map IncrementalStorageEntryRecord.relativePath :=
    List.mem_map.mpr ⟨record, asked, id_relativePath (named.trans same)⟩
  have old := holds.known member round path
  have unseen : latest Prod.fst fresh stored.id = none := by
    refine Lib.latest_eq_none.mpr fun pair inside equal => ?_
    have missing := (stamps.later pair inside).2
    rw [equal, old] at missing
    cases missing
  have new := stamps.known row among
  rw [same, Lib.latest_append, unseen, Option.none_or, old] at new
  exact (congrArg Prod.snd (Option.some.inj new)).symm

theorem mem_storedOf {kept : List Bool} {rows : EventTable Columns} {row : IncrementalStorageEntryRecord Columns}
    (member : row ∈ storedOf kept rows) : row ∈ rows := by
  obtain ⟨pair, filtered, rfl⟩ := List.mem_map.mp member
  exact (List.of_mem_zip (List.mem_of_mem_filter filtered)).1

/-- Any part of the rows of a call may be added. -/
theorem Stamped.write (holds : Stamped time before table)
    (written : nativeEvents time table records = .ok stamped) (kept : List Bool) :
    Stamped time before (table ++ storedOf kept stamped) := by
  obtain ⟨fresh, stamps⟩ := nativeEvents_stamps written
  have split {row : IncrementalStorageEntryRecord Columns} (member : row ∈ table ++ storedOf kept stamped) :
      row ∈ table ∨ row ∈ stamped :=
    (List.mem_append.mp member).imp_right mem_storedOf
  -- a row for a path of the call has the time that the call found or handed out for its event
  have named {row : IncrementalStorageEntryRecord Columns} (member : row ∈ table ∨ row ∈ stamped)
      (round : time ≤ row.createAt)
      (path : row.relativePath ∈ records.map IncrementalStorageEntryRecord.relativePath) :
      latest Prod.fst (existingTimes (existing time table records) ++ fresh) row.id =
        some (row.id, row.createAt) := by
    rcases member with old | new
    · have found := holds.known old round path
      have unseen : latest Prod.fst fresh row.id = none := by
        refine Lib.latest_eq_none.mpr fun pair inside equal => ?_
        have missing := (stamps.later pair inside).2
        rw [equal, found] at missing
        cases missing
      rw [Lib.latest_append, unseen, Option.none_or, found]
    · exact stamps.known row new
  have ofCall {row : IncrementalStorageEntryRecord Columns} (member : row ∈ stamped) :
      row.relativePath ∈ records.map IncrementalStorageEntryRecord.relativePath := by
    obtain ⟨record, asked, same⟩ := stamps.paths row member
    exact List.mem_map.mpr ⟨record, asked, id_relativePath same⟩
  refine ⟨holds.earlier, fun row member => ?_, fun first here second there since from_ path times => ?_,
    fun first here second there since from_ same => ?_⟩
  · rcases split member with old | new
    · exact holds.after row old
    · have entry := Lib.mem_of_latest (stamps.known row new)
      rcases List.mem_append.mp entry with found | handed
      · obtain ⟨stored, inside, same⟩ := List.mem_map.mp found
        obtain ⟨among, since⟩ := existing_mem inside
        have createAt : stored.createAt = row.createAt := congrArg Prod.snd same
        rcases holds.after stored among with old | later
        · have earlier := holds.earlier stored old
          omega
        · exact .inr (createAt ▸ later)
      · exact .inr (later_than_round stamps handed)
  · by_cases called : first.relativePath ∈ records.map IncrementalStorageEntryRecord.relativePath
    · have one := Lib.mem_of_latest (named (split here) since called)
      have other := Lib.mem_of_latest (named (split there) from_ (path ▸ called))
      exact holds.separate stamps one other path times
    · have old := (split here).resolve_right fun new => called (ofCall new)
      have kept_ := (split there).resolve_right fun new => called (path ▸ ofCall new)
      exact holds.apart first old second kept_ since from_ path times
  · have path := id_relativePath same
    by_cases called : first.relativePath ∈ records.map IncrementalStorageEntryRecord.relativePath
    · have one := named (split here) since called
      have other := named (split there) from_ (path ▸ called)
      rw [same, other] at one
      exact (congrArg Prod.snd (Option.some.inj one)).symm
    · have old := (split here).resolve_right fun new => called (ofCall new)
      have kept_ := (split there).resolve_right fun new => called (path ▸ ofCall new)
      exact holds.stable first old second kept_ since from_ same

theorem Stamped.start (earlier : ∀ row ∈ before, row.createAt < time) : Stamped time before before := by
  refine ⟨earlier, fun row member => .inl member, fun first here _ _ since => ?_, fun first here _ _ since => ?_⟩
  · exact absurd since (Int.not_le.mpr (earlier first here))
  · exact absurd since (Int.not_le.mpr (earlier first here))

theorem Stamped.step {next : EventTable Columns} {action : LogAction Columns} (holds : Stamped time before table)
    (stepped : step time table action = some next) : Stamped time before next := by
  cases action with
  | native records kept =>
      simp only [EventLog.step] at stepped
      split at stepped
      · cases stepped
      · next stamped written =>
          cases stepped
          exact holds.write written kept
  | resume records kept =>
      simp only [EventLog.step] at stepped
      split at stepped
      · cases stepped
      · next stamped written =>
          cases stepped
          exact holds.write (nativeEvents_of_resumeEvents written) kept
  | cleanup removed =>
      cases stepped
      exact ⟨holds.earlier, fun row member => holds.after row (List.mem_of_mem_filter member),
        fun first here second there => holds.apart first (List.mem_of_mem_filter here) second
          (List.mem_of_mem_filter there),
        fun first here second there => holds.stable first (List.mem_of_mem_filter here) second
          (List.mem_of_mem_filter there)⟩

/-- The event is there once after replacement. -/
theorem Stamped.once (holds : Stamped time before table) {row : IncrementalStorageEntryRecord Columns}
    (member : row ∈ table) (round : time ≤ row.createAt) :
    ((surviving IncrementalStorageEntryRecord.key table).filter fun other =>
      decide (time ≤ other.createAt) && other.id = row.id).length = 1 := by
  obtain ⟨final, survives, id, createAt⟩ := holds.shown member round
  have chosen : final ∈ (surviving IncrementalStorageEntryRecord.key table).filter fun other =>
      decide (time ≤ other.createAt) && other.id = row.id := by
    refine List.mem_filter.mpr ⟨survives, ?_⟩
    rw [Bool.and_eq_true]
    exact ⟨decide_eq_true (createAt ▸ round), decide_eq_true id⟩
  have same : ∀ other ∈ (surviving IncrementalStorageEntryRecord.key table).filter fun other =>
      decide (time ≤ other.createAt) && other.id = row.id, other = final := by
    intro other inside
    obtain ⟨kept, wanted⟩ := List.mem_filter.mp inside
    rw [Bool.and_eq_true] at wanted
    have shown := Lib.mem_surviving.mp kept
    have named := (of_decide_eq_true wanted.2).trans id.symm
    have times := holds.stable other (Lib.mem_of_latest shown) final
      (Lib.mem_of_latest (Lib.mem_surviving.mp survives)) (of_decide_eq_true wanted.1) (createAt ▸ round) named
    have key : other.key = final.key :=
      Prod.ext (congrArg EventId.operationType named) (Prod.ext (id_relativePath named) times)
    rw [key, Lib.mem_surviving.mp survives] at shown
    exact (Option.some.inj shown).symm
  have distinct := (Lib.nodup_surviving table : (surviving IncrementalStorageEntryRecord.key table).Nodup).filter
    fun other => decide (time ≤ other.createAt) && other.id = row.id
  refine ((List.perm_ext_iff_of_nodup distinct (List.nodup_singleton final)).mpr fun other => ?_).length_eq
  rw [List.mem_singleton]
  exact ⟨same other, fun equal => equal ▸ chosen⟩

end Round

/-- In every reachable table of a round: what the round stored is later than its bound,
different events have different keys, every call stamps a stored event with the time it
has, and each event is there once. -/
theorem event_keys_stable {now time : Int} {before table : EventTable Columns}
    (epoch : resumeEventEpoch now before = .ok time) {actions : List (LogAction Columns)}
    (run : (log time).exec before actions = some table) :
    (∀ row ∈ table, row ∈ before ∨ time < row.createAt) ∧
    (∀ first ∈ table, ∀ second ∈ table, time ≤ first.createAt → time ≤ second.createAt →
      first.key = second.key → first.id = second.id) ∧
    (∀ records stamped, nativeEvents time table records = .ok stamped ∨
        resumeEvents time table records = .ok stamped →
      ∀ row ∈ stamped, ∀ stored ∈ table, time ≤ stored.createAt → row.id = stored.id →
        row.createAt = stored.createAt) ∧
    ∀ row ∈ table, time ≤ row.createAt →
      ((surviving IncrementalStorageEntryRecord.key table).filter fun other =>
        decide (time ≤ other.createAt) && other.id = row.id).length = 1 := by
  have holds : Stamped time before table :=
    @Lib.Machine.exec_invariant _ _ (log time) (Stamped time before) (fun holds stepped => holds.step stepped) _ _ _
      (Stamped.start fun row member => epoch_after epoch member) run
  refine ⟨holds.after, fun first here second there since from_ key => ?_,
    fun records stamped written row among stored member round same => ?_,
    fun row member round => holds.once member round⟩
  · exact holds.apart first here second there since from_ (congrArg (fun key => key.2.1) key)
      (congrArg (fun key => key.2.2) key)
  · exact holds.rewritten (written.elim (fun native => native) nativeEvents_of_resumeEvents) among member round same

/-- A version of the object `a`, at some time. -/
def versionOf (versionId : Text) (createAt : Int) : IncrementalStorageEntryRecord Unit :=
  ⟨['n', 'e', 'w'], ['a'], versionId, createAt, ()⟩

/-- A call stores only its second row, and is repeated. -/
def replayedCall : List (LogAction Unit) :=
  [.native [versionOf ['1'] 0, versionOf ['2'] 0] [false, true],
    .resume [versionOf ['1'] 0, versionOf ['2'] 0] [true, true]]

theorem event_keys_stable_replayed :
    (log 5).exec [] replayedCall = some [versionOf ['2'] 7, versionOf ['1'] 8, versionOf ['2'] 7] ∧
      ∀ row ∈ [versionOf ['2'] 7, versionOf ['1'] 8, versionOf ['2'] 7], 5 ≤ row.createAt →
        ((surviving IncrementalStorageEntryRecord.key
          [versionOf ['2'] 7, versionOf ['1'] 8, versionOf ['2'] 7]).filter fun other =>
            decide (5 ≤ other.createAt) && other.id = row.id).length = 1 := by
  have epoch : resumeEventEpoch 5 ([] : EventTable Unit) = .ok 5 := by decide
  have run : (log 5).exec [] replayedCall =
      some [versionOf ['2'] 7, versionOf ['1'] 8, versionOf ['2'] 7] := by decide
  exact ⟨run, (event_keys_stable epoch run).2.2.2⟩

end Terrasync.Catalogue.EventLog
