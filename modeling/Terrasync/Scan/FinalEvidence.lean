import Mathlib.Data.List.Induction
import Mathlib.Data.List.Nodup
import Terrasync.Lib.Fallible
import Terrasync.Scan.FinalEvents

/-! What the gathered evidence of a finalisation knows, in terms of the old rows and
the recorded history it was gathered from. -/

set_option autoImplicit false

namespace Terrasync.Scan

namespace FinalHistory

def pathKey (row : FinalHistory) : PathKey := (row.relativePath, row.versionId)

/-- The decision a record fixes for its path. -/
def decision (row : FinalHistory) : Option RecordedDecision :=
  match row.operationType with
  | .new => some .added
  | .rename => row.comment.map fun fromPath => .renamed fromPath row.versionId
  | _ => none

/-- The old path a record brings back for its handle. -/
def original (row : FinalHistory) : Option PathKey :=
  match row.operationType with
  | .deleted => some row.pathKey
  | .rename => row.comment.map fun fromPath => (fromPath, row.versionId)
  | _ => none

def source (row : FinalHistory) : Option PathKey :=
  match row.operationType with
  | .rename => row.comment.map fun fromPath => (fromPath, row.versionId)
  | _ => none

/-- A rename record names where the object came from. -/
def WellFormed (row : FinalHistory) : Prop := row.operationType = .rename → row.comment.isSome

end FinalHistory

def Original (old : List EntrySummary) (history : List FinalHistory) (handle : FileHandle)
    (key : PathKey) : Prop :=
  (∃ row ∈ old, row.fileHandle = some handle ∧ row.pathKey = key) ∨
    ∃ row ∈ history, row.fileHandle = some handle ∧ row.original = some key

def Decided (history : List FinalHistory) (key : PathKey) : Prop :=
  ∃ row ∈ history, row.pathKey = key ∧ row.decision.isSome

def RecordedSource (history : List FinalHistory) (key : PathKey) : Prop :=
  ∃ row ∈ history, row.source = some key

namespace Evidence

structure Describes (old : List EntrySummary) (history : List FinalHistory) (evidence : Evidence) :
    Prop where
  originals : ∀ handle key, key ∈ evidence.originals handle ↔ Original old history handle key
  distinct : ∀ handle, (evidence.originals handle).Nodup
  decisions : ∀ key decision, evidence.decisions key = some decision →
    ∃ row ∈ history, row.pathKey = key ∧ row.decision = some decision
  decided : ∀ key, Decided history key → (evidence.decisions key).isSome
  sources : ∀ key, key ∈ evidence.renamedSources ↔ RecordedSource history key

theorem mem_originals_noteOriginal (evidence : Evidence) (noted : Option FileHandle)
    (key : PathKey) (handle : FileHandle) (other : PathKey) :
    other ∈ (evidence.noteOriginal noted key).originals handle ↔
      other ∈ evidence.originals handle ∨ noted = some handle ∧ key = other := by
  cases noted with
  | none => simp [noteOriginal]
  | some noted =>
      by_cases same : handle = noted
      · rw [same]
        simp only [noteOriginal, Function.update_self, List.mem_insert_iff, true_and]
        constructor
        · rintro (here | earlier)
          · exact Or.inr here.symm
          · exact Or.inl earlier
        · rintro (earlier | here)
          · exact Or.inr earlier
          · exact Or.inl here.symm
      · have different : noted ≠ handle := Ne.symm same
        simp [noteOriginal, Function.update_of_ne same, different]

theorem nodup_noteOriginal {evidence : Evidence}
    (distinct : ∀ handle, (evidence.originals handle).Nodup) (noted : Option FileHandle)
    (key : PathKey) (handle : FileHandle) :
    ((evidence.noteOriginal noted key).originals handle).Nodup := by
  cases noted with
  | none => exact distinct handle
  | some noted =>
      by_cases same : handle = noted
      · rw [same]
        simp only [noteOriginal, Function.update_self]
        exact (distinct noted).insert
      · simp only [noteOriginal, Function.update_of_ne same]
        exact distinct handle

@[simp] theorem decisions_noteOriginal (evidence : Evidence) (noted : Option FileHandle)
    (key : PathKey) : (evidence.noteOriginal noted key).decisions = evidence.decisions := by
  cases noted with
  | none => rfl
  | some noted => rfl

@[simp] theorem renamedSources_noteOriginal (evidence : Evidence) (noted : Option FileHandle)
    (key : PathKey) :
    (evidence.noteOriginal noted key).renamedSources = evidence.renamedSources := by
  cases noted with
  | none => rfl
  | some noted => rfl

@[simp] theorem decisions_noteDecision (evidence : Evidence) (key : PathKey)
    (decision : RecordedDecision) :
    (evidence.noteDecision key decision).decisions =
      Function.update evidence.decisions key (some decision) := rfl

@[simp] theorem originals_noteDecision (evidence : Evidence) (key : PathKey)
    (decision : RecordedDecision) :
    (evidence.noteDecision key decision).originals = evidence.originals := rfl

@[simp] theorem renamedSources_noteDecision (evidence : Evidence) (key : PathKey)
    (decision : RecordedDecision) :
    (evidence.noteDecision key decision).renamedSources = evidence.renamedSources := rfl

@[simp] theorem decisions_noteSource (evidence : Evidence) (key : PathKey) :
    (evidence.noteSource key).decisions = evidence.decisions := rfl

@[simp] theorem originals_noteSource (evidence : Evidence) (key : PathKey) :
    (evidence.noteSource key).originals = evidence.originals := rfl

theorem mem_renamedSources_noteSource (evidence : Evidence) (key other : PathKey) :
    other ∈ (evidence.noteSource key).renamedSources ↔
      other ∈ evidence.renamedSources ∨ key = other := by
  simp [noteSource, or_comm, eq_comm]

theorem describes_ofOld (old : List EntrySummary) : Describes old [] (ofOld old) := by
  induction old using List.reverseRecOn with
  | nil =>
      constructor
      · intro handle key
        simp [ofOld, Original]
      · intro handle
        exact List.nodup_nil
      · intro key decision recorded
        cases recorded
      · rintro key ⟨row, member, -⟩
        exact absurd member List.not_mem_nil
      · intro key
        simp [ofOld, RecordedSource]
  | append_singleton old row ih =>
      have noted : ofOld (old ++ [row]) = (ofOld old).noteOriginal row.fileHandle row.pathKey := by
        rw [ofOld, List.foldl_append]
        rfl
      rw [noted]
      constructor
      · intro handle key
        rw [mem_originals_noteOriginal, ih.originals]
        simp only [Original, List.not_mem_nil, false_and, exists_false, or_false, List.mem_append,
          List.mem_singleton]
        constructor
        · rintro (⟨other, member, found⟩ | here)
          · exact ⟨other, Or.inl member, found⟩
          · exact ⟨row, Or.inr rfl, here⟩
        · rintro ⟨other, member | rfl, found⟩
          · exact Or.inl ⟨other, member, found⟩
          · exact Or.inr found
      · exact nodup_noteOriginal ih.distinct row.fileHandle row.pathKey
      · rw [decisions_noteOriginal]
        exact ih.decisions
      · rw [decisions_noteOriginal]
        exact ih.decided
      · rw [renamedSources_noteOriginal]
        exact ih.sources

variable {old : List EntrySummary} {seen : List FinalHistory} {evidence : Evidence}

theorem original_append (row : FinalHistory) (handle : FileHandle) (key : PathKey) :
    Original old (seen ++ [row]) handle key ↔
      Original old seen handle key ∨ row.fileHandle = some handle ∧ row.original = some key := by
  simp only [Original, List.mem_append, List.mem_singleton]
  constructor
  · rintro (known | ⟨other, member | rfl, found⟩)
    · exact Or.inl (Or.inl known)
    · exact Or.inl (Or.inr ⟨other, member, found⟩)
    · exact Or.inr found
  · rintro ((known | ⟨other, member, found⟩) | found)
    · exact Or.inl known
    · exact Or.inr ⟨other, Or.inl member, found⟩
    · exact Or.inr ⟨row, Or.inr rfl, found⟩

theorem recordedSource_append (row : FinalHistory) (key : PathKey) :
    RecordedSource (seen ++ [row]) key ↔ RecordedSource seen key ∨ row.source = some key := by
  simp only [RecordedSource, List.mem_append, List.mem_singleton]
  constructor
  · rintro ⟨other, member | rfl, found⟩
    · exact Or.inl ⟨other, member, found⟩
    · exact Or.inr found
  · rintro (⟨other, member, found⟩ | found)
    · exact ⟨other, Or.inl member, found⟩
    · exact ⟨row, Or.inr rfl, found⟩

theorem decided_append (row : FinalHistory) (key : PathKey) :
    Decided (seen ++ [row]) key ↔ Decided seen key ∨ row.pathKey = key ∧ row.decision.isSome := by
  simp only [Decided, List.mem_append, List.mem_singleton]
  constructor
  · rintro ⟨other, member | rfl, found⟩
    · exact Or.inl ⟨other, member, found⟩
    · exact Or.inr found
  · rintro (⟨other, member, found⟩ | found)
    · exact ⟨other, Or.inl member, found⟩
    · exact ⟨row, Or.inr rfl, found⟩

/-- A record that leaves the evidence alone adds nothing to what it describes. -/
theorem Describes.idle (describes : Describes old seen evidence) {row : FinalHistory}
    (decision : row.decision = none) (original : row.original = none) (source : row.source = none) :
    Describes old (seen ++ [row]) evidence := by
  constructor
  · intro handle key
    rw [original_append, original]
    simp [describes.originals]
  · exact describes.distinct
  · intro key decided known
    obtain ⟨other, member, found⟩ := describes.decisions key decided known
    exact ⟨other, List.mem_append_left _ member, found⟩
  · intro key decided
    rw [decided_append, decision] at decided
    exact describes.decided key (by simpa using decided)
  · intro key
    rw [recordedSource_append, source]
    simp [describes.sources]

theorem Describes.noteOriginal (describes : Describes old seen evidence) {row : FinalHistory}
    {key : PathKey} (decision : row.decision = none) (original : row.original = some key)
    (source : row.source = none) :
    Describes old (seen ++ [row]) (evidence.noteOriginal row.fileHandle key) := by
  constructor
  · intro handle other
    rw [mem_originals_noteOriginal, original_append, describes.originals, original,
      Option.some.injEq]
  · exact nodup_noteOriginal describes.distinct row.fileHandle key
  · rw [decisions_noteOriginal]
    intro other decided known
    obtain ⟨earlier, member, found⟩ := describes.decisions other decided known
    exact ⟨earlier, List.mem_append_left _ member, found⟩
  · rw [decisions_noteOriginal]
    intro other decided
    rw [decided_append, decision] at decided
    exact describes.decided other (by simpa using decided)
  · rw [renamedSources_noteOriginal]
    intro other
    rw [recordedSource_append, source]
    simp [describes.sources]

/-- The decisions after one more, against the history with one more record. -/
theorem Describes.noteDecision (describes : Describes old seen evidence) {row : FinalHistory}
    {decision : RecordedDecision} (decides : row.decision = some decision) :
    (∀ key decided, (evidence.noteDecision row.pathKey decision).decisions key = some decided →
      ∃ other ∈ seen ++ [row], other.pathKey = key ∧ other.decision = some decided) ∧
    ∀ key, Decided (seen ++ [row]) key →
      ((evidence.noteDecision row.pathKey decision).decisions key).isSome := by
  constructor
  · intro key decided known
    by_cases here : key = row.pathKey
    · rw [here, decisions_noteDecision, Function.update_self] at known
      exact ⟨row, List.mem_append_right _ List.mem_cons_self, here.symm, decides.trans known⟩
    · rw [decisions_noteDecision, Function.update_of_ne here] at known
      obtain ⟨other, member, found⟩ := describes.decisions key decided known
      exact ⟨other, List.mem_append_left _ member, found⟩
  · intro key decided
    by_cases here : key = row.pathKey
    · rw [here, decisions_noteDecision, Function.update_self]
      rfl
    · rw [decided_append] at decided
      rw [decisions_noteDecision, Function.update_of_ne here]
      exact describes.decided key (decided.resolve_right fun found => here found.1.symm)

theorem Describes.record (describes : Describes old seen evidence) {row : FinalHistory}
    {next : Evidence} (recorded : evidence.record row = .ok next) :
    Describes old (seen ++ [row]) next := by
  unfold Evidence.record at recorded
  cases operation : row.operationType with
  | new =>
      rw [operation] at recorded
      cases recorded
      have decides : row.decision = some .added := by simp [FinalHistory.decision, operation]
      have noted := describes.noteDecision decides
      constructor
      · intro handle key
        rw [original_append]
        simp [describes.originals, FinalHistory.original, operation]
      · exact describes.distinct
      · exact noted.1
      · exact noted.2
      · intro key
        rw [recordedSource_append]
        simp [describes.sources, FinalHistory.source, operation]
  | deleted =>
      rw [operation] at recorded
      cases recorded
      apply describes.noteOriginal
      · simp [FinalHistory.decision, operation]
      · simp [FinalHistory.original, operation, FinalHistory.pathKey]
      · simp [FinalHistory.source, operation]
  | rename =>
      rw [operation] at recorded
      cases comment : row.comment with
      | none =>
          rw [comment] at recorded
          cases recorded
      | some fromPath =>
          rw [comment] at recorded
          cases recorded
          have decides : row.decision = some (.renamed fromPath row.versionId) := by
            simp [FinalHistory.decision, operation, comment]
          have original : row.original = some (fromPath, row.versionId) := by
            simp [FinalHistory.original, operation, comment]
          have source : row.source = some (fromPath, row.versionId) := by
            simp [FinalHistory.source, operation, comment]
          have noted := describes.noteDecision decides
          constructor
          · intro handle key
            rw [original_append, original, Option.some.injEq, ← describes.originals]
            exact mem_originals_noteOriginal evidence row.fileHandle _ handle key
          · exact nodup_noteOriginal describes.distinct row.fileHandle _
          · intro key decided known
            apply noted.1 key decided
            simpa [FinalHistory.pathKey] using known
          · intro key decided
            simpa [FinalHistory.pathKey] using noted.2 key decided
          · intro key
            rw [recordedSource_append, source, Option.some.injEq, ← describes.sources,
              renamedSources_noteDecision, mem_renamedSources_noteSource,
              renamedSources_noteOriginal]
  | changed =>
      rw [operation] at recorded
      cases recorded
      apply describes.idle
      · simp [FinalHistory.decision, operation]
      · simp [FinalHistory.original, operation]
      · simp [FinalHistory.source, operation]
  | candidateNew =>
      rw [operation] at recorded
      cases recorded
      apply describes.idle
      · simp [FinalHistory.decision, operation]
      · simp [FinalHistory.original, operation]
      · simp [FinalHistory.source, operation]
  | displacedOld =>
      rw [operation] at recorded
      cases recorded
      apply describes.idle
      · simp [FinalHistory.decision, operation]
      · simp [FinalHistory.original, operation]
      · simp [FinalHistory.source, operation]

/-- Well-formed history can be gathered, and the evidence describes exactly it. -/
theorem gather (old : List EntrySummary) {history : List FinalHistory}
    (wellFormed : ∀ row ∈ history, row.WellFormed) :
    ∃ evidence, history.foldlM Evidence.record (ofOld old) = .ok evidence ∧
      Describes old history evidence := by
  have each : ∀ row ∈ history, ∀ evidence : Evidence, ∃ next, evidence.record row = .ok next := by
    intro row member evidence
    unfold Evidence.record
    cases operation : row.operationType with
    | rename =>
        obtain ⟨fromPath, comment⟩ := Option.isSome_iff_exists.mp (wellFormed row member operation)
        rw [comment]
        exact ⟨_, rfl⟩
    | new => exact ⟨_, rfl⟩
    | deleted => exact ⟨_, rfl⟩
    | changed => exact ⟨_, rfl⟩
    | candidateNew => exact ⟨_, rfl⟩
    | displacedOld => exact ⟨_, rfl⟩
  obtain ⟨evidence, gathered⟩ := Lib.foldlM_succeeds each (ofOld old)
  have described := Lib.foldlM_invariant (fun describes recorded => describes.record recorded)
    (describes_ofOld old) gathered
  rw [List.nil_append] at described
  exact ⟨evidence, gathered, described⟩

end Evidence

end Terrasync.Scan
