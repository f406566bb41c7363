import Mathlib.Data.List.Forall2
import Mathlib.Data.List.ReduceOption
import Terrasync.Catalogue.Deletion
import Terrasync.Lib.Fallible

/-! Which statuses the vanished rows of a catalogue get. Classification decodes the rows
it names one by one, so its statuses are read off the rows. -/

set_option autoImplicit false

namespace Terrasync.Catalogue.Deletion

open Lib (latest surviving mem_surviving nodup_surviving)

variable {Entry : Type} {toObservation : StorageEntryRecord → Except DatabaseError Entry}

/-! ### Statuses over rows -/

/-- The rows that the status of a record names. -/
def rowStatus (fhGroups : FileHandle → Option (List StorageEntryRecord)) (record : StorageEntryRecord) :
    Option (DeletionStatus StorageEntryRecord) :=
  match record.fileHandle with
  | none => some (.deleted record)
  | some handle =>
      match fhGroups handle with
      | some [_] => some (.deleted record)
      | some [first, second] =>
          if first.relativePath = record.relativePath then some (.renamed first second)
          else some (.renamed second first)
      | some _ => none
      | none => some (.deleted record)

/-- Records without a handle are classified first. -/
def candidates (rows : List StorageEntryRecord) : List StorageEntryRecord :=
  noFhRecords rows ++ fhRecords rows

/-- The handles of a round's candidates. -/
def handlesOf (hashOrder : FileHandle → Nat) (rows : List StorageEntryRecord) : List FileHandle :=
  uniqueFhList hashOrder (fhRecords rows)

def namedStatuses (hashOrder : FileHandle → Nat) (base rows : List StorageEntryRecord) :
    List (DeletionStatus StorageEntryRecord) :=
  (candidates rows).filterMap (rowStatus (fhGroups base (handlesOf hashOrder rows)))

namespace DeletionStatus

def observe (toObservation : StorageEntryRecord → Except DatabaseError Entry) :
    DeletionStatus StorageEntryRecord → Except DatabaseError (DeletionStatus Entry)
  | .deleted entry => return .deleted (← toObservation entry)
  | .renamed source target => return .renamed (← toObservation source) (← toObservation target)

def target? : DeletionStatus StorageEntryRecord → Option StorageEntryRecord
  | .deleted _ => none
  | .renamed _ target => some target

/-- The row that vanishes. -/
def subject : DeletionStatus StorageEntryRecord → StorageEntryRecord
  | .deleted entry => entry
  | .renamed source _ => source

end DeletionStatus

theorem classifyRecord_eq (fhGroups : FileHandle → Option (List StorageEntryRecord))
    (record : StorageEntryRecord) :
    classifyRecord toObservation fhGroups record =
      (rowStatus fhGroups record).mapM (DeletionStatus.observe toObservation) := by
  unfold classifyRecord rowStatus
  cases record.fileHandle with
  | none => cases decoded : toObservation record <;> simp [DeletionStatus.observe, decoded]
  | some handle =>
      simp only
      rcases fhGroups handle with _ | _ | ⟨first, _ | ⟨second, _ | ⟨third, rest⟩⟩⟩
      · simp [DeletionStatus.observe]
      · rfl
      · simp [DeletionStatus.observe]
      · simp only
        split <;> simp [DeletionStatus.observe]
      · rfl

/-- The loop over the records collects the statuses of those that have one. -/
theorem mapM_reduceOption {Source Named Target : Type} (name : Source → Option Named)
    (observe : Named → Except DatabaseError Target) (sources : List Source) :
    (do
      let classified ← sources.mapM fun source => (name source).mapM observe
      return classified.reduceOption : Except DatabaseError (List Target)) =
      (sources.filterMap name).mapM observe := by
  induction sources with
  | nil => rfl
  | cons source rest ih =>
      rw [List.filterMap_cons, List.mapM_cons]
      cases named : name source with
      | none =>
          simp only [Option.mapM_none, pure_bind, bind_assoc]
          exact ih
      | some status =>
          rw [List.mapM_cons, ← ih]
          simp [List.reduceOption_cons_of_some]

theorem classifyDeletedCandidates_eq (hashOrder : FileHandle → Nat)
    (base rows : List StorageEntryRecord) :
    classifyDeletedCandidates toObservation hashOrder base rows =
      (namedStatuses hashOrder base rows).mapM (DeletionStatus.observe toObservation) := by
  have unhandled : (noFhRecords rows).filterMap
      (rowStatus (fhGroups base (handlesOf hashOrder rows))) = (noFhRecords rows).map .deleted := by
    refine List.filterMap_eq_map_iff_forall_eq_some.2 fun record member => ?_
    have handle := Option.isNone_iff_eq_none.1 (List.mem_filter.1 member).2
    rw [rowStatus, handle]
  rw [namedStatuses, candidates, List.filterMap_append, unhandled, List.mapM_append,
    ← mapM_reduceOption, List.mapM_map]
  simp only [← classifyRecord_eq, bind_assoc, pure_bind]
  rfl

theorem mapM_observes {Named Target : Type} {observe : Named → Except DatabaseError Target}
    {named : List Named} {targets : List Target} (observed : named.mapM observe = .ok targets) :
    List.Forall₂ (fun status target => observe status = .ok target) named targets := by
  induction named generalizing targets with
  | nil =>
      cases observed
      exact .nil
  | cons status rest ih =>
      rw [List.mapM_cons] at observed
      obtain ⟨target, first, later⟩ := Lib.bind_eq_ok.1 observed
      obtain ⟨others, remaining, collected⟩ := Lib.bind_eq_ok.1 later
      cases collected
      exact .cons first (ih remaining)

/-- A list of answers fits the sources one by one exactly when every source is answered
and each answer fits. -/
theorem forall₂_filterMap {Source Answer : Type} {fits : Source → Answer → Prop}
    {answer : Source → Option Answer} {sources : List Source} :
    List.Forall₂ fits sources (sources.filterMap answer) ↔
      ∀ source ∈ sources, ∃ given, answer source = some given ∧ fits source given := by
  induction sources with
  | nil => simp
  | cons source rest ih =>
      rw [List.forall_mem_cons, ← ih, List.filterMap_cons]
      cases given : answer source with
      | none =>
          refine iff_of_false (fun fitted => ?_) (by rintro ⟨⟨_, impossible, -⟩, -⟩; cases impossible)
          have length : (source :: rest).length = (rest.filterMap answer).length := fitted.length_eq
          have bound := List.length_filterMap_le answer rest
          rw [List.length_cons] at length
          omega
      | some status => simp

/-! ### One status for each vanished row -/

/-- The current row of the target's path and version is in the working generation and has
the handle. -/
def CurrentName (base : List StorageEntryRecord) (working : Nat) (handle : Option FileHandle)
    (target : StorageEntryRecord) : Prop :=
  target.fileHandle = handle ∧ ∃ current, latest StorageEntryRecord.key base target.key = some current ∧
    current.currentState = working ∧ current.fileHandle = handle

/-- A status that answers for a record: it is deleted, or renamed from the record to a
name of the working generation with its handle. -/
inductive Answers (toObservation : StorageEntryRecord → Except DatabaseError Entry)
    (base : List StorageEntryRecord) (working : Nat) (record : StorageEntryRecord) :
    DeletionStatus StorageEntryRecord → Prop where
  | deleted : Answers toObservation base working record (.deleted record)
  | renamed {source target : StorageEntryRecord} (same : source.key = record.key)
      (equal : toObservation source = toObservation record)
      (current : CurrentName base working record.fileHandle target) :
      Answers toObservation base working record (.renamed source target)

/-- One status for each vanished row, with targets that no other status names. -/
structure OneStatusEach (toObservation : StorageEntryRecord → Except DatabaseError Entry)
    (base : List StorageEntryRecord) (working : Nat) (rows : List StorageEntryRecord)
    (statuses : List (DeletionStatus StorageEntryRecord)) : Prop where
  each : List.Forall₂ (Answers toObservation base working) (candidates rows) statuses
  distinctTargets : statuses.Pairwise fun first second =>
    ∀ target ∈ first.target?, ∀ other ∈ second.target?, target.key ≠ other.key
  apart : ∀ first ∈ statuses, ∀ target ∈ first.target?, ∀ second ∈ statuses,
    target.key ≠ second.subject.key

/-- The rows shown for the handle of a record: at most one, or the record's own name and
one name of the working generation. -/
inductive OneNewName (toObservation : StorageEntryRecord → Except DatabaseError Entry)
    (base : List StorageEntryRecord) (working : Nat) (record : StorageEntryRecord) :
    List StorageEntryRecord → Prop where
  | none : OneNewName toObservation base working record []
  | single (row : StorageEntryRecord) : OneNewName toObservation base working record [row]
  | ownFirst {own other : StorageEntryRecord} (same : own.key = record.key)
      (equal : toObservation own = toObservation record)
      (current : CurrentName base working record.fileHandle other) :
      OneNewName toObservation base working record [own, other]
  | ownSecond {own other : StorageEntryRecord} (same : own.key = record.key)
      (equal : toObservation own = toObservation record)
      (current : CurrentName base working record.fileHandle other)
      (differs : other.relativePath ≠ record.relativePath) :
      OneNewName toObservation base working record [other, own]

/-- A handle that names one vanished path and at most one new one. -/
def SingleName (toObservation : StorageEntryRecord → Except DatabaseError Entry)
    (base : List StorageEntryRecord) (working : Nat) (handles : List FileHandle)
    (record : StorageEntryRecord) : Prop :=
  ∀ handle ∈ record.fileHandle,
    OneNewName toObservation base working record (shown base handles handle)

section Exact

variable {hashOrder : FileHandle → Nat} {base : List StorageEntryRecord} {working : Nat}

theorem rowStatus_answers {handles : List FileHandle} {record : StorageEntryRecord} :
    (∃ given, rowStatus (fhGroups base handles) record = some given ∧
      Answers toObservation base working record given) ↔
      SingleName toObservation base working handles record := by
  rw [rowStatus, SingleName]
  cases record.fileHandle with
  | none => exact iff_of_true ⟨_, rfl, .deleted⟩ (by rintro handle ⟨⟩)
  | some handle =>
      simp only [Option.mem_some_iff, forall_eq', fhGroups]
      match shown base handles handle with
      | [] => exact iff_of_true ⟨_, rfl, .deleted⟩ .none
      | [row] => exact iff_of_true ⟨_, rfl, .deleted⟩ (.single row)
      | [first, second] =>
          simp only [List.cons_ne_nil, if_false]
          by_cases same : first.relativePath = record.relativePath
          · rw [if_pos same]
            constructor
            · rintro ⟨given, named, answers⟩
              cases named
              cases answers with
              | renamed own equal current => exact .ownFirst own equal current
            · intro names
              cases names with
              | ownFirst own equal current => exact ⟨_, rfl, .renamed own equal current⟩
              | ownSecond own equal current differs => exact absurd same differs
          · rw [if_neg same]
            constructor
            · rintro ⟨given, named, answers⟩
              cases named
              cases answers with
              | renamed own equal current => exact .ownSecond own equal current same
            · intro names
              cases names with
              | ownFirst own equal current => exact absurd (congrArg Prod.fst own) same
              | ownSecond own equal current differs => exact ⟨_, rfl, .renamed own equal current⟩
      | first :: second :: third :: rest =>
          refine iff_of_false ?_ (by rintro ⟨⟩)
          rintro ⟨given, impossible, -⟩
          cases impossible

theorem mem_detectDeletedQuery {record : StorageEntryRecord} :
    record ∈ detectDeletedQuery base working ↔
      latest StorageEntryRecord.key base record.key = some record ∧ record.currentState = 1 - working := by
  rw [detectDeletedQuery, List.mem_insertionSort, List.mem_filter, mem_surviving, decide_eq_true_eq]

theorem mem_candidates {rows : List StorageEntryRecord} {record : StorageEntryRecord} :
    record ∈ candidates rows ↔ record ∈ rows := by
  rw [candidates, List.mem_append, noFhRecords, fhRecords, List.mem_filter, List.mem_filter,
    ← and_or_left]
  cases record.fileHandle <;> simp

theorem nodup_candidates : (candidates (detectDeletedQuery base working)).Nodup := by
  have rows : (detectDeletedQuery base working).Nodup :=
    (List.perm_insertionSort pathOrder _).nodup_iff.2 ((nodup_surviving base).filter _)
  refine List.nodup_append.2 ⟨rows.filter _, rows.filter _, ?_⟩
  rintro first unhandled second handled rfl
  have none := (List.mem_filter.1 unhandled).2
  have some := (List.mem_filter.1 handled).2
  rw [← Option.not_isSome, some] at none
  cases none

/-- A name of the working generation is no vanished row. -/
theorem CurrentName.key_ne {handle : Option FileHandle} {target record : StorageEntryRecord}
    (current : CurrentName base working handle target)
    (vanished : record ∈ detectDeletedQuery base working) : target.key ≠ record.key := by
  obtain ⟨-, row, found, state, -⟩ := current
  obtain ⟨stored, old⟩ := mem_detectDeletedQuery.1 vanished
  intro same
  rw [same, stored] at found
  cases found
  omega

/-- A rename pairs the two rows shown for the handle. -/
theorem rowStatus_renamed {handles : List FileHandle} {record source target : StorageEntryRecord}
    (named : rowStatus (fhGroups base handles) record = some (.renamed source target)) :
    ∃ handle, record.fileHandle = some handle ∧
      (shown base handles handle = [source, target] ∨ shown base handles handle = [target, source]) := by
  rw [rowStatus] at named
  cases handled : record.fileHandle with
  | none =>
      rw [handled] at named
      cases named
  | some handle =>
      simp only [handled, fhGroups] at named
      refine ⟨handle, rfl, ?_⟩
      revert named
      match shown base handles handle with
      | [] => exact fun named => by cases named
      | [row] => exact fun named => by cases named
      | [first, second] =>
          simp only [List.cons_ne_nil, if_false]
          split
          · intro named
            cases named
            exact .inl rfl
          · intro named
            cases named
            exact .inr rfl
      | first :: second :: third :: rest => exact fun named => by cases named

/-- Renames to one name start from one row. -/
theorem same_record {handles : List FileHandle} {first second source source' target target' :
    StorageEntryRecord}
    (vanished : first ∈ detectDeletedQuery base working)
    (vanished' : second ∈ detectDeletedQuery base working)
    (named : rowStatus (fhGroups base handles) first = some (.renamed source target))
    (answers : Answers toObservation base working first (.renamed source target))
    (named' : rowStatus (fhGroups base handles) second = some (.renamed source' target'))
    (answers' : Answers toObservation base working second (.renamed source' target'))
    (same : target.key = target'.key) : first = second := by
  obtain ⟨handle, handled, pair⟩ := rowStatus_renamed named
  obtain ⟨handle', handled', pair'⟩ := rowStatus_renamed named'
  cases answers with
  | renamed own equal current =>
  cases answers' with
  | renamed own' equal' current' =>
      have handles : handle = handle' := by
        obtain ⟨-, row, found, -, handed⟩ := current
        obtain ⟨-, row', found', -, handed'⟩ := current'
        rw [same, found'] at found
        cases found
        rw [handled] at handed
        rw [handled', handed] at handed'
        exact Option.some.inj handed'
      subst handles
      have stays : source = source' := by
        have turns : target' ≠ source := fun turned =>
          current'.key_ne vanished ((congrArg StorageEntryRecord.key turned).trans own)
        obtain pair | pair := pair <;> obtain pair' | pair' := pair' <;> rw [pair] at pair' <;>
          cases pair'
        · rfl
        · exact absurd rfl turns
        · exact absurd rfl turns
        · rfl
      have keys : first.key = second.key := own.symm.trans ((congrArg _ stays).trans own')
      have stored := (mem_detectDeletedQuery.1 vanished).1
      rw [keys, (mem_detectDeletedQuery.1 vanished').1] at stored
      exact (Option.some.inj stored).symm

/-- Classification decodes the statuses of the rows, and these answer each vanished row
once exactly when every handle among them names one vanished path and at most one new
one. -/
theorem deletion_statuses_exact (toObservation : StorageEntryRecord → Except DatabaseError Entry)
    (hashOrder : FileHandle → Nat) (base : List StorageEntryRecord) (working : Nat)
    {statuses : List (DeletionStatus Entry)}
    (success : classifyDeletedCandidates toObservation hashOrder base (detectDeletedQuery base working) =
      .ok statuses) :
    let rows := detectDeletedQuery base working
    let named := namedStatuses hashOrder base rows
    List.Forall₂ (fun row status => row.observe toObservation = .ok status) named statuses ∧
      (OneStatusEach toObservation base working rows named ↔
        ∀ record ∈ rows, SingleName toObservation base working (handlesOf hashOrder rows) record) := by
  intro rows named
  refine ⟨?_, ?_⟩
  · rw [classifyDeletedCandidates_eq] at success
    exact mapM_observes success
  have each : List.Forall₂ (Answers toObservation base working) (candidates rows) named ↔
      ∀ record ∈ rows, SingleName toObservation base working (handlesOf hashOrder rows) record := by
    rw [show named = (candidates rows).filterMap (rowStatus (fhGroups base (handlesOf hashOrder rows))) from rfl,
      forall₂_filterMap]
    simp only [rowStatus_answers, mem_candidates]
  refine ⟨fun once => each.1 once.each, fun single => ?_⟩
  have answered : ∀ record ∈ rows, ∀ status,
      rowStatus (fhGroups base (handlesOf hashOrder rows)) record = some status →
      Answers toObservation base working record status := by
    intro record member status given
    obtain ⟨other, given', answers⟩ := rowStatus_answers.2 (single record member)
    rw [given] at given'
    cases given'
    exact answers
  refine ⟨each.2 single, ?_, ?_⟩
  · refine List.pairwise_filterMap.2 (nodup_candidates.pairwise_of_forall_ne ?_)
    intro first member second member' differs status given status' given' target targeted other targeted' same
    rw [mem_candidates] at member member'
    cases status with
    | deleted entry => cases targeted
    | renamed source _ =>
        cases targeted
        cases status' with
        | deleted entry => cases targeted'
        | renamed source' _ =>
            cases targeted'
            exact differs (same_record member member' given (answered first member _ given) given'
              (answered second member' _ given') same)
  · intro status named target targeted other named'
    obtain ⟨record, member, given⟩ := List.mem_filterMap.1 named
    obtain ⟨record', member', given'⟩ := List.mem_filterMap.1 named'
    rw [mem_candidates] at member member'
    have answers := answered record member status given
    have answers' := answered record' member' other given'
    have subject : other.subject.key = record'.key := by
      cases answers' with
      | deleted => rfl
      | renamed own equal current => exact own
    rw [subject]
    cases answers with
    | deleted => cases targeted
    | renamed own equal current =>
        cases targeted
        exact current.key_ne member'

end Exact

/-- A row of one file with several names. -/
def aliasRow (name : Char) (generation : Nat) : StorageEntryRecord :=
  ⟨[name], [], 0, generation, some ['h'], []⟩

def keepRow (row : StorageEntryRecord) : Except DatabaseError StorageEntryRecord := .ok row

theorem fhGroups_alias {base : List StorageEntryRecord} {first second : StorageEntryRecord}
    (grouped : (batchFhQuery base [['h']]).filter (fun row => row.fileHandle = some ['h']) = [first, second]) :
    fhGroups base [['h']] ['h'] = some [first, second] := by
  have group : shown base [['h']] ['h'] = [first, second] := by
    rw [shown, Lib.blocks_of_length_le (by decide) (List.cons_ne_nil _ _) (by decide), List.flatMap_singleton]
    exact grouped
  rw [fhGroups, group, if_neg (List.cons_ne_nil _ _)]

theorem rowStatus_pair {fhGroups : FileHandle → Option (List StorageEntryRecord)} {handle : FileHandle}
    {record first second : StorageEntryRecord} (handled : record.fileHandle = some handle)
    (grouped : fhGroups handle = some [first, second]) :
    rowStatus fhGroups record =
      if first.relativePath = record.relativePath then some (.renamed first second)
      else some (.renamed second first) := by
  rw [rowStatus, handled]
  simp only [grouped]

/-- One vanished name and one new name are a rename. -/
theorem deletion_statuses_exact_rename :
    detectDeletedQuery [aliasRow 'a' 1, aliasRow 'b' 0] 0 = [aliasRow 'a' 1] ∧
      ∀ record ∈ detectDeletedQuery [aliasRow 'a' 1, aliasRow 'b' 0] 0,
        SingleName keepRow [aliasRow 'a' 1, aliasRow 'b' 0] 0 [['h']] record := by
  have rows : detectDeletedQuery [aliasRow 'a' 1, aliasRow 'b' 0] 0 = [aliasRow 'a' 1] := by decide
  have handles : handlesOf (fun _ => 0) [aliasRow 'a' 1] = [['h']] := by decide
  have grouped : fhGroups [aliasRow 'a' 1, aliasRow 'b' 0] [['h']] ['h'] =
      some [aliasRow 'a' 1, aliasRow 'b' 0] := fhGroups_alias (by decide)
  have named : namedStatuses (fun _ => 0) [aliasRow 'a' 1, aliasRow 'b' 0] [aliasRow 'a' 1] =
      [.renamed (aliasRow 'a' 1) (aliasRow 'b' 0)] := by
    rw [namedStatuses, handles, show candidates [aliasRow 'a' 1] = [aliasRow 'a' 1] by decide,
      List.filterMap_cons, rowStatus_pair rfl grouped, if_pos rfl]
    rfl
  have success : classifyDeletedCandidates keepRow (fun _ => 0) [aliasRow 'a' 1, aliasRow 'b' 0]
      (detectDeletedQuery [aliasRow 'a' 1, aliasRow 'b' 0] 0) =
        .ok [.renamed (aliasRow 'a' 1) (aliasRow 'b' 0)] := by
    rw [classifyDeletedCandidates_eq, rows, named]
    rfl
  have exact_ := (deletion_statuses_exact keepRow (fun _ => 0) [aliasRow 'a' 1, aliasRow 'b' 0] 0 success).2
  rw [rows, handles, named] at exact_
  refine ⟨rows, ?_⟩
  rw [rows]
  refine exact_.1 ⟨?_, List.pairwise_singleton _ _, ?_⟩
  · exact .cons (.renamed rfl rfl ⟨rfl, aliasRow 'b' 0, by decide, rfl, rfl⟩) .nil
  · intro status member target targeted other member'
    cases List.mem_singleton.1 member
    cases List.mem_singleton.1 member'
    cases targeted
    decide

/-- Two names of one file vanish: each is reported as renamed to the other. -/
theorem vanished_aliases_swap :
    classifyDeletedCandidates keepRow (fun _ => 0) [aliasRow 'a' 1, aliasRow 'b' 1]
        (detectDeletedQuery [aliasRow 'a' 1, aliasRow 'b' 1] 0) =
      .ok [.renamed (aliasRow 'a' 1) (aliasRow 'b' 1), .renamed (aliasRow 'b' 1) (aliasRow 'a' 1)] ∧
    ¬OneStatusEach keepRow [aliasRow 'a' 1, aliasRow 'b' 1] 0
      (detectDeletedQuery [aliasRow 'a' 1, aliasRow 'b' 1] 0)
      [.renamed (aliasRow 'a' 1) (aliasRow 'b' 1), .renamed (aliasRow 'b' 1) (aliasRow 'a' 1)] := by
  let table := [aliasRow 'a' 1, aliasRow 'b' 1]
  have rows : detectDeletedQuery table 0 = table := by decide
  have handles : handlesOf (fun _ => 0) table = [['h']] := by decide
  have grouped : fhGroups table [['h']] ['h'] = some table := fhGroups_alias (by decide)
  have named : namedStatuses (fun _ => 0) table table =
      [.renamed (aliasRow 'a' 1) (aliasRow 'b' 1), .renamed (aliasRow 'b' 1) (aliasRow 'a' 1)] := by
    rw [namedStatuses, handles, show candidates table = table by decide, List.filterMap_cons,
      List.filterMap_cons, rowStatus_pair rfl grouped, rowStatus_pair rfl grouped, if_pos rfl,
      if_neg (by decide)]
    rfl
  constructor
  · rw [classifyDeletedCandidates_eq, rows, named]
    rfl
  · intro once
    exact once.apart _ List.mem_cons_self (aliasRow 'b' 1) rfl _ (List.mem_cons_of_mem _ List.mem_cons_self) rfl

end Terrasync.Catalogue.Deletion
