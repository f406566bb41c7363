import Terrasync.Lib.SelfDelimiting
import Terrasync.Scan.CandidateCache

/-! What a verified cache guarantees: where the digests of the base table are compared
instead of its columns, the rows handed on are those of the wide re-read. -/

set_option autoImplicit false

namespace Terrasync.Scan

open Lib (SelfDelimiting surviving latest)
open SyncDelta (Bytes)

namespace ChangeDetection

theorem toLeBytes_length (width value : Nat) : (toLeBytes width value).length = width := by
  induction width generalizing value with
  | zero => rfl
  | succ width ih => rw [toLeBytes, List.length_cons, ih]

theorem toLeBytes_injective {width first second : Nat} (small : first < 256 ^ width)
    (other : second < 256 ^ width) (same : toLeBytes width first = toLeBytes width second) :
    first = second := by
  induction width generalizing first second with
  | zero =>
      rw [pow_zero] at small other
      omega
  | succ width ih =>
      obtain ⟨low, high⟩ := List.cons.inj same
      rw [pow_succ] at small other
      have quotients := ih (Nat.div_lt_of_lt_mul (by omega)) (Nat.div_lt_of_lt_mul (by omega)) high
      have remainders : first % 256 = second % 256 := by
        have values := congrArg UInt8.toNat low
        simpa only [UInt8.toNat_ofNat'] using values
      omega

end ChangeDetection

namespace CandidateCache

open ChangeDetection (toLeBytes toLeBytes_length toLeBytes_injective)

/-! ### The digested bytes -/

theorem hashText_delimits : SelfDelimiting hashText := by
  refine SelfDelimiting.withLength Text.fits (fun {first second} same => ?_) fun small other same => ?_
  · cases first
    cases second
    cases same
    rfl
  · obtain ⟨lengths, rests⟩ := List.append_inj same
      ((toLeBytes_length 8 _).trans (toLeBytes_length 8 _).symm)
    exact ⟨toLeBytes_injective small other lengths, rests⟩

theorem hashU32_delimits : SelfDelimiting hashU32 :=
  .of_length (fun value => toLeBytes_length 4 value.toNat) fun {first second} same =>
    UInt32.toNat_inj.mp (toLeBytes_injective first.toNat_lt second.toNat_lt same)

theorem hashU64_delimits : SelfDelimiting hashU64 :=
  .of_length (fun value => toLeBytes_length 8 value.toNat) fun {first second} same =>
    UInt64.toNat_inj.mp (toLeBytes_injective first.toNat_lt second.toNat_lt same)

theorem hashI64_delimits : SelfDelimiting hashI64 :=
  .of_length (fun value => toLeBytes_length 8 value.toUInt64.toNat) fun {first second} same =>
    congrArg UInt64.toInt64 (UInt64.toNat_inj.mp
      (toLeBytes_injective first.toUInt64.toNat_lt second.toUInt64.toNat_lt same))

theorem hashBool_delimits : SelfDelimiting hashBool :=
  .of_length (fun _ => rfl) fun {first second} same => by
    cases first <;> cases second <;> first | rfl | exact absurd same (by decide)

theorem hashOption_delimits {Field : Type} {hashField : Field → Bytes} (delimits : SelfDelimiting hashField) :
    SelfDelimiting (hashOption hashField) := by
  have tagged := delimits.option (by decide : (0 : UInt8) ≠ 1)
  refine ⟨fun {first second rest following} same => tagged.split ?_⟩
  cases first <;> cases second <;> exact same

/-- The digested bytes tell all columns but the generation apart. -/
theorem sameColumns_of_hashed {row other : EntrySummary} (same : row.hashed = other.hashed) :
    row.SameColumns other := by
  have text := hashOption_delimits hashText_delimits
  have u32 := hashOption_delimits hashU32_delimits
  obtain ⟨name, same⟩ := hashText_delimits.split (List.append_cancel_left same)
  obtain ⟨relativePath, same⟩ := hashText_delimits.split same
  obtain ⟨size, same⟩ := hashU64_delimits.split same
  obtain ⟨ext, same⟩ := text.split same
  obtain ⟨ctime, same⟩ := hashI64_delimits.split same
  obtain ⟨mtime, same⟩ := hashI64_delimits.split same
  obtain ⟨atime, same⟩ := hashI64_delimits.split same
  obtain ⟨mode, same⟩ := u32.split same
  obtain ⟨storageType, same⟩ := hashText_delimits.split same
  obtain ⟨isSymlink, same⟩ := hashBool_delimits.split same
  obtain ⟨isDir, same⟩ := hashBool_delimits.split same
  obtain ⟨isRegularFile, same⟩ := hashBool_delimits.split same
  obtain ⟨hardLinks, same⟩ := hashU32_delimits.split same
  obtain ⟨uid, same⟩ := u32.split same
  obtain ⟨gid, same⟩ := u32.split same
  obtain ⟨ino, same⟩ := (hashOption_delimits hashU64_delimits).split same
  obtain ⟨fileHandle, same⟩ := text.split same
  obtain ⟨versionId, same⟩ := hashText_delimits.split same
  obtain ⟨tags, same⟩ := text.split same
  have markerState := text.injective same
  rw [EntrySummary.SameColumns, EntrySummary.mk.injEq]
  exact ⟨name, relativePath, size, ext, ctime, mtime, atime, mode, storageType, isSymlink, isDir, isRegularFile,
    hardLinks, rfl, uid, gid, ino, fileHandle, versionId, tags, markerState⟩

theorem hashed_sameColumns {row other : EntrySummary} (same : row.SameColumns other) :
    row.hashed = other.hashed := by
  rw [← same]
  rfl

/-! ### The digests of the base table -/

variable {blake3Hex : Bytes → List Char}

/-- A row carries its own digest or none. -/
def Digested (blake3Hex : Bytes → List Char) (row : BaseRow) : Prop :=
  ∀ digest ∈ row.metadataHash, digest = row.record.scanMetadataHash blake3Hex

def BaseTable.Digested (blake3Hex : Bytes → List Char) (table : BaseTable) : Prop :=
  (∀ row ∈ table.rows, CandidateCache.Digested blake3Hex row) ∧
    ∀ row ∈ table.cut, CandidateCache.Digested blake3Hex row

theorem apply_digested (candidates : List Key) (epoch : Nat) (row : EntrySummary) :
    Digested blake3Hex (apply blake3Hex candidates epoch row) := by
  intro digest present
  simp only [apply] at present
  split at present
  · exact (Option.mem_some.mp present).symm
  · cases present

theorem step_digested {table next : BaseTable} {action : BaseAction} (digested : table.Digested blake3Hex)
    (stepped : table.step blake3Hex action = some next) : next.Digested blake3Hex := by
  obtain ⟨rows, cut⟩ := digested
  cases action with
  | write candidates epoch records =>
      cases stepped
      refine ⟨fun row member => ?_, cut⟩
      rcases List.mem_append.mp member with old | new
      · exact rows row old
      · obtain ⟨record, -, rfl⟩ := List.mem_map.mp new
        exact apply_digested candidates epoch record
  | relabel matching currentState =>
      cases stepped
      refine ⟨fun row member => ?_, cut⟩
      obtain ⟨old, inside, rfl⟩ := List.mem_map.mp member
      split
      · exact rows old inside
      · exact rows old inside
  | delete matching =>
      cases stepped
      exact ⟨fun row member => rows row (List.mem_of_mem_filter member), cut⟩
  | tombstone epoch keys =>
      cases stepped
      refine ⟨fun row member => ?_, cut⟩
      rcases List.mem_append.mp member with old | new
      · exact rows row old
      · obtain ⟨removed, -, rfl⟩ := List.mem_map.mp new
        exact fun digest present => absurd present (by simp)
  | checkpoint =>
      cases stepped
      exact ⟨rows, rows⟩
  | restore =>
      cases stepped
      exact ⟨cut, cut⟩

theorem run_digested {actions : List BaseAction} {table : BaseTable}
    (run : (baseMachine blake3Hex).exec ⟨[], []⟩ actions = some table) : table.Digested blake3Hex :=
  @Lib.Machine.exec_invariant _ _ (baseMachine blake3Hex) (BaseTable.Digested blake3Hex)
    (fun digested stepped => step_digested digested stepped) _ _ _
    ⟨fun _ member => absurd member List.not_mem_nil, fun _ member => absurd member List.not_mem_nil⟩ run

/-! ### The rows both queries read -/

section Reads

variable {deployment : Deployment} {base : List BaseRow} {events : List EventRow} {time : Int}

theorem currentRows_mem {row : BaseRow} (member : row ∈ currentRows deployment base events time) :
    row ∈ base ∧ row.key ∈ (cachedRows deployment events time).map EntrySummary.key := by
  have final := List.mem_of_mem_filter member
  have sorted := Lib.mem_of_latest (Lib.mem_surviving.mp final)
  obtain ⟨inside, wanted⟩ := List.mem_filter.mp ((List.mem_insertionSort _).mp sorted)
  exact ⟨inside, of_decide_eq_true wanted⟩

/-- The table shows one row for each key. -/
theorem currentRows_unique {first second : BaseRow} (here : first ∈ currentRows deployment base events time)
    (there : second ∈ currentRows deployment base events time) (same : first.key = second.key) :
    first = second := by
  have shown := Lib.mem_surviving.mp (List.mem_of_mem_filter here)
  have other := Lib.mem_surviving.mp (List.mem_of_mem_filter there)
  rw [same, other] at shown
  exact (Option.some.inj shown).symm

/-- Nothing is lost to the limit: the rows have different keys. -/
theorem mem_wideRows {row : EntrySummary} :
    row ∈ wideRows deployment base events time ↔
      ∃ stored ∈ currentRows deployment base events time, stored.record = row := by
  have unique : ∀ first ∈ (orderByKey ((currentRows deployment base events time).map BaseRow.record)).reverse,
      ∀ second ∈ (orderByKey ((currentRows deployment base events time).map BaseRow.record)).reverse,
        first.key = second.key → first = second := by
    intro first here second there same
    rw [List.mem_reverse, orderByKey, List.mem_insertionSort, List.mem_map] at here there
    obtain ⟨stored, inside, rfl⟩ := here
    obtain ⟨other, also, rfl⟩ := there
    rw [currentRows_unique inside also same]
  rw [wideRows, limitByKey, Lib.firsts, List.mem_reverse, Lib.mem_surviving,
    Lib.latest_iff_of_unique unique, List.mem_reverse, orderByKey,
    List.mem_insertionSort, List.mem_map]
  exact and_iff_left rfl

end Reads

/-! ### The verified cache -/

theorem nodup_of_dedup_length {Value : Type} [DecidableEq Value] {values : List Value}
    (same : values.dedup.length = values.length) : values.Nodup :=
  List.dedup_eq_self.mp ((List.dedup_sublist values).eq_of_length same)

/-- What the elements of a list give, if each of them gives something. -/
theorem mapM_some {Value Result : Type} {give : Value → Option Result} {values : List Value}
    {results : List Result} (given : values.mapM give = some results) :
    (∀ value ∈ values, ∃ result ∈ results, give value = some result) ∧
      ∀ result ∈ results, ∃ value ∈ values, give value = some result := by
  induction values generalizing results with
  | nil =>
      cases given
      exact ⟨fun _ member => absurd member List.not_mem_nil, fun _ member => absurd member List.not_mem_nil⟩
  | cons first rest ih =>
      rw [List.mapM_cons] at given
      obtain ⟨head, gives, given⟩ := Option.bind_eq_some_iff.mp given
      obtain ⟨tail, later, finished⟩ := Option.bind_eq_some_iff.mp given
      cases finished
      obtain ⟨forward, backward⟩ := ih later
      refine ⟨fun value member => ?_, fun result member => ?_⟩
      · rcases List.mem_cons.mp member with rfl | inside
        · exact ⟨head, List.mem_cons_self, gives⟩
        · obtain ⟨result, among, equal⟩ := forward value inside
          exact ⟨result, List.mem_cons_of_mem _ among, equal⟩
      · rcases List.mem_cons.mp member with rfl | inside
        · exact ⟨first, List.mem_cons_self, gives⟩
        · obtain ⟨value, among, equal⟩ := backward result inside
          exact ⟨value, List.mem_cons_of_mem _ among, equal⟩

theorem verifiedCandidates_some {cached rows : List EntrySummary} {references : List CandidateReference}
    (verified : verifiedCandidates blake3Hex cached references = some rows) :
    (cached.map EntrySummary.key).Nodup ∧ (references.map CandidateReference.key).Nodup ∧
      cached.mapM (verifiedRow blake3Hex references) = some rows := by
  simp only [verifiedCandidates] at verified
  split at verified
  · cases verified
  · next sizes =>
      split at verified
      · cases verified
      · next distinct =>
          rw [not_or, ne_eq, not_not, ne_eq, not_not] at sizes
          rw [ne_eq, not_not] at distinct
          refine ⟨nodup_of_dedup_length ?_, nodup_of_dedup_length ?_, verified⟩
          · rw [sizes.1, List.length_map]
          · rw [distinct, List.length_map, sizes.2]

/-- A verified row was found under its key, with its own digest. -/
theorem verifiedRow_some {references : List CandidateReference} {row given : EntrySummary}
    (verified : verifiedRow blake3Hex references row = some given) :
    ∃ reference ∈ references, reference.key = row.key ∧
      reference.metadataHash = some (row.scanMetadataHash blake3Hex) ∧
        given = { row with currentState := reference.currentState } := by
  simp only [verifiedRow] at verified
  split at verified
  · cases verified
  · next reference found =>
      split at verified
      · next matching =>
          cases verified
          exact ⟨reference, Lib.mem_of_latest found, Lib.key_of_latest found, matching, rfl⟩
      · cases verified

section Verified

variable {deployment : Deployment} {base : List BaseRow} {events : List EventRow} {time : Int}
  {references : List CandidateReference}

/-- No two of the encodings that are compared have one digest. -/
def CollisionFree (blake3Hex : Bytes → List Char) (cached : List EntrySummary) (current : List BaseRow) : Prop :=
  ∀ row ∈ cached, ∀ stored ∈ current, blake3Hex row.hashed = blake3Hex stored.record.hashed →
    row.hashed = stored.record.hashed

/-- A verified row is the stored row of its key. -/
theorem verifiedRow_current (digested : ∀ row ∈ base, Digested blake3Hex row)
    (answered : references.Perm ((currentRows deployment base events time).map BaseRow.reference))
    (collisionFree : CollisionFree blake3Hex (cachedRows deployment events time)
      (currentRows deployment base events time))
    {row given : EntrySummary} (member : row ∈ cachedRows deployment events time)
    (verified : verifiedRow blake3Hex references row = some given) :
    ∃ stored ∈ currentRows deployment base events time, stored.key = row.key ∧ row.SameColumns stored.record ∧
      given = stored.record := by
  obtain ⟨reference, among, key, digest, rfl⟩ := verifiedRow_some verified
  obtain ⟨stored, inside, rfl⟩ := List.mem_map.mp (answered.mem_iff.mp among)
  have own := digested stored (currentRows_mem inside).1 _ digest
  have same := sameColumns_of_hashed (collisionFree row member stored inside own)
  exact ⟨stored, inside, key, same, same⟩

theorem mem_verified (digested : ∀ row ∈ base, Digested blake3Hex row)
    (answered : references.Perm ((currentRows deployment base events time).map BaseRow.reference))
    (collisionFree : CollisionFree blake3Hex (cachedRows deployment events time)
      (currentRows deployment base events time)) {rows : List EntrySummary}
    (verified : verifiedCandidates blake3Hex (cachedRows deployment events time) references = some rows)
    (row : EntrySummary) : row ∈ rows ↔ row ∈ wideRows deployment base events time := by
  obtain ⟨-, -, each⟩ := verifiedCandidates_some verified
  obtain ⟨forward, backward⟩ := mapM_some each
  rw [mem_wideRows]
  constructor
  · intro member
    obtain ⟨cached, inside, gives⟩ := backward row member
    obtain ⟨stored, found, -, -, rfl⟩ := verifiedRow_current digested answered collisionFree inside gives
    exact ⟨stored, found, rfl⟩
  · rintro ⟨stored, found, rfl⟩
    obtain ⟨cached, inside, key⟩ := List.mem_map.mp (currentRows_mem found).2
    obtain ⟨given, member, gives⟩ := forward cached inside
    obtain ⟨other, also, same, -, rfl⟩ := verifiedRow_current digested answered collisionFree inside gives
    rw [currentRows_unique found also (key.symm.trans same.symm)]
    exact member

/-- A verified cache is the wide re-read, and a cache with a duplicate, a missing or a
different row is not verified: after any writes to the base table. -/
theorem verified_candidates_exact {actions : List BaseAction} {table : BaseTable}
    (run : (baseMachine blake3Hex).exec ⟨[], []⟩ actions = some table)
    (answered : references.Perm ((currentRows deployment table.rows events time).map BaseRow.reference))
    (collisionFree : CollisionFree blake3Hex (cachedRows deployment events time)
      (currentRows deployment table.rows events time)) :
    (∀ rows, verifiedCandidates blake3Hex (cachedRows deployment events time) references = some rows →
      ∀ row, row ∈ rows ↔ row ∈ wideRows deployment table.rows events time) ∧
    (¬ ((cachedRows deployment events time).map EntrySummary.key).Nodup ∨
        (∃ row ∈ cachedRows deployment events time,
          ∀ stored ∈ currentRows deployment table.rows events time, stored.key ≠ row.key) ∨
        (∃ row ∈ cachedRows deployment events time, ∃ stored ∈ currentRows deployment table.rows events time,
          stored.key = row.key ∧ ¬ row.SameColumns stored.record) →
      verifiedCandidates blake3Hex (cachedRows deployment events time) references = none) := by
  have digested := (run_digested run).1
  refine ⟨fun rows verified => mem_verified digested answered collisionFree verified, fun flawed => ?_⟩
  rw [Option.eq_none_iff_forall_ne_some]
  intro rows verified
  obtain ⟨distinct, -, each⟩ := verifiedCandidates_some verified
  obtain ⟨forward, -⟩ := mapM_some each
  rcases flawed with duplicate | ⟨row, member, missing⟩ | ⟨row, member, stored, found, key, different⟩
  · exact duplicate distinct
  · obtain ⟨given, -, gives⟩ := forward row member
    obtain ⟨stored, found, key, -, -⟩ := verifiedRow_current digested answered collisionFree member gives
    exact missing stored found key
  · obtain ⟨given, -, gives⟩ := forward row member
    obtain ⟨other, also, same, columns, -⟩ := verifiedRow_current digested answered collisionFree member gives
    rw [currentRows_unique found also (key.trans same.symm)] at different
    exact different columns

/-- The candidates of a round, read back either way. -/
theorem mem_candidateRows {actions : List BaseAction} {table : BaseTable}
    (run : (baseMachine blake3Hex).exec ⟨[], []⟩ actions = some table)
    (answered : references.Perm ((currentRows deployment table.rows events time).map BaseRow.reference))
    (collisionFree : CollisionFree blake3Hex (cachedRows deployment events time)
      (currentRows deployment table.rows events time)) (row : EntrySummary) :
    row ∈ candidateRows deployment table.rows events time blake3Hex references ↔
      row ∈ wideRows deployment table.rows events time := by
  have digested := (run_digested run).1
  simp only [candidateRows]
  split
  · next empty =>
      have none := List.isEmpty_iff.mp empty
      refine ⟨fun member => absurd member List.not_mem_nil, fun member => ?_⟩
      obtain ⟨stored, found, -⟩ := mem_wideRows.mp member
      have key := (currentRows_mem found).2
      rw [none] at key
      exact absurd key List.not_mem_nil
  · cases verified : verifiedCandidates blake3Hex (cachedRows deployment events time) references with
    | none => rfl
    | some rows => exact mem_verified digested answered collisionFree verified row

end Verified

def emptyText : Text := ⟨[], by decide⟩

/-- A file of one byte at a path of one letter, recorded in the given generation. -/
def sampleRow (letter : UInt8) (currentState : UInt8) : EntrySummary :=
  ⟨emptyText, ⟨[letter], by simp⟩, 1, none, 0, 0, 0, none, emptyText, false, false, true, 1, currentState, none,
    none, none, none, emptyText, none, none⟩

def hexOf (bytes : Bytes) : List Char :=
  bytes.flatMap fun byte => [Nat.digitChar (byte.toNat / 16), Nat.digitChar (byte.toNat % 16)]

/-- The rows of the two candidates are relabelled after they were logged. -/
def sampleWrites : List BaseAction :=
  [.write [(sampleRow 97 0).key, (sampleRow 98 0).key] 0 [sampleRow 97 0, sampleRow 98 0],
    .relabel (fun _ => true) 1]

def sampleEvents : List EventRow :=
  [⟨.candidateNew, 5, 0, sampleRow 97 0⟩, ⟨.candidateNew, 5, 0, sampleRow 98 0⟩]

theorem sampleWrites_enabled : ((baseMachine hexOf).exec ⟨[], []⟩ sampleWrites).isSome = true := rfl

def sampleTable : BaseTable := ((baseMachine hexOf).exec ⟨[], []⟩ sampleWrites).get sampleWrites_enabled

/-- The references of the two rows, in the order opposite to that of the table. -/
def sampleReferences : List CandidateReference :=
  ((currentRows (.single 1) sampleTable.rows sampleEvents 5).map BaseRow.reference).reverse

set_option maxRecDepth 20000 in
theorem verified_candidates_exact_relabelled :
    verifiedCandidates hexOf (cachedRows (.single 1) sampleEvents 5) sampleReferences =
        some [sampleRow 97 1, sampleRow 98 1] ∧
      ∀ row, row ∈ [sampleRow 97 1, sampleRow 98 1] ↔
        row ∈ wideRows (.single 1) sampleTable.rows sampleEvents 5 := by
  have run : (baseMachine hexOf).exec ⟨[], []⟩ sampleWrites = some sampleTable := rfl
  have verified : verifiedCandidates hexOf (cachedRows (.single 1) sampleEvents 5) sampleReferences =
      some [sampleRow 97 1, sampleRow 98 1] := by decide
  have collisionFree : CollisionFree hexOf (cachedRows (.single 1) sampleEvents 5)
      (currentRows (.single 1) sampleTable.rows sampleEvents 5) := by
    unfold CollisionFree
    decide
  exact ⟨verified, (verified_candidates_exact run (List.reverse_perm _) collisionFree).1 _ verified⟩

end CandidateCache

end Terrasync.Scan
