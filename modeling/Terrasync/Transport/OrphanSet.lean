import Mathlib.Data.List.Induction
import Mathlib.Data.List.Nodup
import Terrasync.Transport.Message

/-! The destination index over any calls: which entries it offers for deletion, in terms
of the calls since their insertion. -/

set_option autoImplicit false

namespace Terrasync.Transport

namespace DestIndex

/-- A path and whether its slot is the one of logical directories. -/
abbrev SlotKey := RelativePath × Bool

def slotKey (entry : ObservedEntry) : SlotKey := (entry.path, entry.kind = .directory)

/-- The slot of the object that stands for a directory. -/
def objectKey (directory : ObservedEntry) : SlotKey := (markerPath directory, false)

/-- A source directory with an object of its own. -/
def CarriesObject (source : ObservedEntry) : Prop :=
  source.kind = .directory ∧ (source.directoryMarkerObject.isSome ∨ source.history.isSome)

instance (source : ObservedEntry) : Decidable (CarriesObject source) :=
  inferInstanceAs (Decidable (_ ∧ _))

inductive Call where
  | insert (entry : ObservedEntry)
  | check (source : ObservedEntry)
  | markMatched (source : ObservedEntry)
  | markDirectoryObjectMatched (directory : ObservedEntry)
deriving DecidableEq, Repr

def call (index : DestIndex) : Call → DestIndex
  | .insert entry => index.insert entry
  | .check source => (index.check source).1
  | .markMatched source => index.markMatched source
  | .markDirectoryObjectMatched directory => index.markDirectoryObjectMatched directory

/-- The index after the calls of one page. -/
def after (calls : List Call) : DestIndex := calls.foldl call new

/-! ### What the calls say -/

/-- The last insertion into a slot, with the calls since then. -/
structure LastInserted (key : SlotKey) (calls : List Call) (entry : ObservedEntry) (before since : List Call) :
    Prop where
  split : calls = before ++ .insert entry :: since
  slot : slotKey entry = key
  last : ∀ later, Call.insert later ∈ since → slotKey later ≠ key

/-- `check` or `mark_matched` of a source entry of a slot. -/
inductive Meets (key : SlotKey) : Call → Prop where
  | check {source : ObservedEntry} (slot : slotKey source = key) : Meets key (.check source)
  | markMatched {source : ObservedEntry} (slot : slotKey source = key) : Meets key (.markMatched source)

/-- The slot of a logical directory holds an entry that is matched. -/
def DirectoryMet (calls : List Call) (path : RelativePath) : Prop :=
  ∃ entry before since, LastInserted (path, true) calls entry before since ∧
    ∃ call ∈ since, Meets (path, true) call

/-- A call after `earlier` that matches a slot: directly, as the object of a directory,
or as the object of a source directory whose own slot is not matched yet. -/
inductive Matches (earlier : List Call) (key : SlotKey) : Call → Prop where
  | met {call : Call} (meets : Meets key call) : Matches earlier key call
  | object {directory : ObservedEntry} (object : objectKey directory = key) :
      Matches earlier key (.markDirectoryObjectMatched directory)
  | carried {source : ObservedEntry} (carries : CarriesObject source) (object : objectKey source = key)
      (first : ¬DirectoryMet earlier source.path) : Matches earlier key (.markMatched source)

/-- Some of the calls since an insertion matches its slot. -/
def MatchedSince (key : SlotKey) (earlier since : List Call) : Prop :=
  ∃ before call rest, since = before ++ call :: rest ∧ Matches (earlier ++ before) key call

/-- An entry inserted last into its slot, and not matched since. -/
def Unmatched (calls : List Call) (entry : ObservedEntry) : Prop :=
  ∃ before since, LastInserted (slotKey entry) calls entry before since ∧
    ¬MatchedSince (slotKey entry) (before ++ [.insert entry]) since

theorem lastInserted_append {key : SlotKey} {calls : List Call} {call : Call} {entry : ObservedEntry}
    {before since : List Call} :
    LastInserted key (calls ++ [call]) entry before since ↔
      since = [] ∧ before = calls ∧ call = .insert entry ∧ slotKey entry = key ∨
      ∃ earlier, since = earlier ++ [call] ∧ LastInserted key calls entry before earlier ∧
        ∀ later, call = .insert later → slotKey later ≠ key := by
  constructor
  · rintro ⟨split, slot, last⟩
    rcases List.eq_nil_or_concat since with rfl | ⟨earlier, final, rfl⟩
    · obtain ⟨same, inserted⟩ := List.append_inj' split rfl
      exact .inl ⟨rfl, same.symm, List.singleton_inj.1 inserted, slot⟩
    · rw [List.concat_eq_append] at last split ⊢
      rw [← List.cons_append, ← List.append_assoc] at split
      obtain ⟨same, final⟩ := List.append_inj' split rfl
      cases List.singleton_inj.1 final
      refine .inr ⟨earlier, rfl, ⟨same, slot, fun later member => ?_⟩, fun later inserted => ?_⟩
      · exact last later (List.mem_append_left _ member)
      · exact last later (List.mem_append_right _ (List.mem_singleton.2 inserted.symm))
  · rintro (⟨rfl, rfl, rfl, slot⟩ | ⟨earlier, rfl, ⟨rfl, slot, last⟩, other⟩)
    · exact ⟨rfl, slot, fun later member => absurd member List.not_mem_nil⟩
    · refine ⟨by rw [List.append_assoc, List.cons_append], slot, fun later member => ?_⟩
      cases List.mem_append.1 member with
      | inl within => exact last later within
      | inr final => exact other later (List.mem_singleton.1 final).symm

theorem matchedSince_append {key : SlotKey} {earlier since : List Call} {call : Call} :
    MatchedSince key earlier (since ++ [call]) ↔
      MatchedSince key earlier since ∨ Matches (earlier ++ since) key call := by
  constructor
  · rintro ⟨before, hit, rest, split, matched⟩
    rcases List.eq_nil_or_concat rest with rfl | ⟨others, final, rfl⟩
    · obtain ⟨rfl, same⟩ := List.append_inj' split rfl
      cases List.singleton_inj.1 same
      exact .inr matched
    · rw [List.concat_eq_append, ← List.cons_append, ← List.append_assoc] at split
      obtain ⟨same, -⟩ := List.append_inj' split rfl
      exact .inl ⟨before, hit, others, same, matched⟩
  · rintro (⟨before, hit, rest, rfl, matched⟩ | matched)
    · exact ⟨before, hit, rest ++ [call], by rw [List.append_assoc, List.cons_append], matched⟩
    · exact ⟨since, call, [], rfl, matched⟩

/-! ### What the index holds -/

theorem find_mark (slot : Slot) (path other : RelativePath) :
    find (mark slot path) other =
      (find slot other).map fun keyed => (keyed.1, keyed.2 || decide (other = path)) := by
  rw [find, find, mark, List.find?_map]
  have unchanged : (fun keyed : ObservedEntry × Bool => decide (keyed.1.path = other)) ∘
      (fun keyed => if keyed.1.path = path then (keyed.1, true) else keyed) =
        fun keyed => decide (keyed.1.path = other) := by
    funext keyed
    simp only [Function.comp_apply]
    split <;> rfl
  rw [unchanged]
  cases found : slot.find? fun keyed => decide (keyed.1.path = other) with
  | none => rfl
  | some keyed =>
      have same := List.find?_some found
      rw [decide_eq_true_eq] at same
      simp only [Option.map_some, same, Option.some_inj]
      by_cases marked : other = path
      · rw [if_pos marked, decide_eq_true marked, Bool.or_true]
      · rw [if_neg marked, decide_eq_false marked, Bool.or_false]

theorem find_insert (slot : Slot) (entry : ObservedEntry) (other : RelativePath) :
    find (slot.filter (fun keyed => keyed.1.path ≠ entry.path) ++ [(entry, false)]) other =
      if other = entry.path then some (entry, false) else find slot other := by
  rw [find, find, List.find?_append, List.find?_filter]
  by_cases same : other = entry.path
  · subst same
    have removed : (slot.find? fun keyed =>
        decide (decide (keyed.1.path ≠ entry.path) = true ∧ decide (keyed.1.path = entry.path) = true)) = none := by
      simp
    rw [if_pos rfl, removed, Option.none_or]
    simp
  · have kept : (fun keyed : ObservedEntry × Bool =>
        decide (decide (keyed.1.path ≠ entry.path) = true ∧ decide (keyed.1.path = other) = true)) =
          fun keyed => decide (keyed.1.path = other) := by
      funext keyed
      by_cases here : keyed.1.path = other <;> simp [here, same]
    have apart : decide (entry.path = other) = false := decide_eq_false fun equal => same equal.symm
    rw [if_neg same, kept, List.find?_singleton, apart]
    simp

/-- The entry held in a slot, with its flag. -/
def lookup (index : DestIndex) (key : SlotKey) : Option (ObservedEntry × Bool) :=
  find (if key.2 then index.directories else index.files) key.1

theorem slot_eq (index : DestIndex) (entry : ObservedEntry) :
    index.slot entry = if (slotKey entry).2 then index.directories else index.files := by
  simp [slot, slotKey]

theorem lookup_setSlot (index : DestIndex) (entry : ObservedEntry) (slot : Slot) (key : SlotKey) :
    (index.setSlot entry slot).lookup key =
      if key.2 = (slotKey entry).2 then find slot key.1 else index.lookup key := by
  rw [lookup, lookup, setSlot, slotKey]
  by_cases directory : entry.kind = .directory <;> cases key.2 <;> simp [directory]

theorem key_cases (key : SlotKey) (entry : ObservedEntry) :
    key = slotKey entry ↔ key.2 = (slotKey entry).2 ∧ key.1 = entry.path := by
  rw [Prod.ext_iff, and_comm]
  rfl

theorem lookup_slot {key : SlotKey} {entry : ObservedEntry} (same : key.2 = (slotKey entry).2)
    (index : DestIndex) : find (index.slot entry) key.1 = index.lookup key := by
  rw [slot_eq, ← same]
  rfl

theorem lookup_insert (index : DestIndex) (entry : ObservedEntry) (key : SlotKey) :
    (index.insert entry).lookup key =
      if key = slotKey entry then some (entry, false) else index.lookup key := by
  rw [insert, lookup_setSlot, find_insert]
  by_cases same : key.2 = (slotKey entry).2
  · rw [if_pos same, lookup_slot same]
    by_cases path : key.1 = entry.path
    · rw [if_pos path, if_pos ((key_cases key entry).2 ⟨same, path⟩)]
    · rw [if_neg path, if_neg fun equal => path ((key_cases key entry).1 equal).2]
  · rw [if_neg same, if_neg fun equal => same ((key_cases key entry).1 equal).1]

/-- A held entry whose flag may be set. -/
def flagged (marks : Bool) (held : Option (ObservedEntry × Bool)) : Option (ObservedEntry × Bool) :=
  held.map fun keyed => (keyed.1, keyed.2 || marks)

@[simp] theorem flagged_false (held : Option (ObservedEntry × Bool)) : flagged false held = held := by
  cases held with
  | none => rfl
  | some keyed => rw [flagged, Option.map_some, Bool.or_false]

theorem flagged_flagged (first second : Bool) (held : Option (ObservedEntry × Bool)) :
    flagged second (flagged first held) = flagged (first || second) held := by
  cases held with
  | none => rfl
  | some keyed => simp only [flagged, Option.map_some, Bool.or_assoc]

theorem lookup_mark (index : DestIndex) (source : ObservedEntry) (key : SlotKey) :
    (index.setSlot source (mark (index.slot source) source.path)).lookup key =
      flagged (decide (key = slotKey source)) (index.lookup key) := by
  rw [lookup_setSlot, find_mark]
  by_cases same : key.2 = (slotKey source).2
  · rw [if_pos same, lookup_slot same, flagged]
    congr 1
    funext keyed
    rw [decide_eq_decide.2 ((key_cases key source).trans (and_iff_right same))]
  · rw [if_neg same, decide_eq_false fun equal => same ((key_cases key source).1 equal).1, flagged_false]

theorem lookup_markDirectoryObjectMatched (index : DestIndex) (directory : ObservedEntry) (key : SlotKey) :
    (index.markDirectoryObjectMatched directory).lookup key =
      flagged (decide (key = objectKey directory)) (index.lookup key) := by
  obtain ⟨path, isDirectory⟩ := key
  cases isDirectory with
  | true =>
      rw [decide_eq_false (by rw [objectKey]; simp), flagged_false]
      rfl
  | false =>
      have same : ((path, false) = objectKey directory) ↔ path = markerPath directory := by
        rw [objectKey]
        simp
      rw [decide_eq_decide.2 same]
      exact find_mark index.files (markerPath directory) path

theorem lookup_check (index : DestIndex) (source : ObservedEntry) (key : SlotKey) :
    (index.check source).1.lookup key =
      flagged (decide (key = slotKey source)) (index.lookup key) := by
  rw [check]
  cases found : find (index.slot source) source.path with
  | some keyed => exact lookup_mark index source key
  | none =>
      by_cases same : key = slotKey source
      · subst same
        have absent : index.lookup (slotKey source) = none := by
          rw [← lookup_slot rfl]
          exact found
        rw [absent]
        rfl
      · rw [decide_eq_false same, flagged_false]

/-- The flag of the source's own slot, before it is matched. -/
def already (index : DestIndex) (source : ObservedEntry) : Bool :=
  ((index.lookup (slotKey source)).map Prod.snd).getD false

theorem lookup_markMatched (index : DestIndex) (source : ObservedEntry) (key : SlotKey) :
    (index.markMatched source).lookup key =
      flagged (decide (key = slotKey source) ||
        decide (index.already source = false ∧ CarriesObject source ∧ key = objectKey source))
        (index.lookup key) := by
  have flag : ((find (index.slot source) source.path).map Prod.snd).getD false = index.already source := by
    rw [already, ← lookup_slot rfl]
    rfl
  have condition : ((!index.already source) = true ∧ source.kind = .directory ∧
      (source.directoryMarkerObject.isSome ∨ source.history.isSome)) ↔
        index.already source = false ∧ CarriesObject source := by
    rw [Bool.not_eq_true', CarriesObject]
  rw [markMatched]
  simp only [flag, condition]
  by_cases carries : index.already source = false ∧ CarriesObject source
  · rw [if_pos carries, lookup_markDirectoryObjectMatched, lookup_mark, flagged_flagged]
    congr 2
    exact decide_eq_decide.2 ⟨fun same => ⟨carries.1, carries.2, same⟩, fun all => all.2.2⟩
  · have uncarried : decide (index.already source = false ∧ CarriesObject source ∧
        key = objectKey source) = false := decide_eq_false fun all => carries ⟨all.1, all.2.1⟩
    rw [if_neg carries, lookup_mark, uncarried, Bool.or_false]

/-! ### Runs -/

/-- Whether a call sets the flag of a slot. -/
def marks (index : DestIndex) (key : SlotKey) : Call → Bool
  | .insert _ => false
  | .check source => decide (key = slotKey source)
  | .markMatched source => decide (key = slotKey source) ||
      decide (index.already source = false ∧ CarriesObject source ∧ key = objectKey source)
  | .markDirectoryObjectMatched directory => decide (key = objectKey directory)

/-- A call that inserts nothing into a slot keeps its entry. -/
theorem lookup_call {index : DestIndex} {key : SlotKey} {made : Call}
    (other : ∀ later, made = .insert later → slotKey later ≠ key) :
    (index.call made).lookup key = flagged (index.marks key made) (index.lookup key) := by
  cases made with
  | insert entry =>
      rw [call, lookup_insert, if_neg fun same => other entry rfl same.symm, marks, flagged_false]
  | check source => exact lookup_check index source key
  | markMatched source => exact lookup_markMatched index source key
  | markDirectoryObjectMatched directory => exact lookup_markDirectoryObjectMatched index directory key

theorem after_append (calls : List Call) (made : Call) :
    after (calls ++ [made]) = (after calls).call made := by
  rw [after, List.foldl_append]
  rfl

/-- Only `check` and `mark_matched` of the same path match a logical directory. -/
theorem matches_directory {earlier : List Call} {path : RelativePath} {made : Call} :
    Matches earlier (path, true) made ↔ Meets (path, true) made := by
  constructor
  · intro matched
    cases matched with
    | met meets => exact meets
    | object object => cases (Prod.mk.inj object).2
    | carried carries object first => cases (Prod.mk.inj object).2
  · exact .met

theorem matchedSince_directory {earlier since : List Call} {path : RelativePath} :
    MatchedSince (path, true) earlier since ↔ ∃ call ∈ since, Meets (path, true) call := by
  constructor
  · rintro ⟨before, hit, rest, rfl, matched⟩
    exact ⟨hit, List.mem_append_right _ List.mem_cons_self, matches_directory.1 matched⟩
  · rintro ⟨hit, member, meets⟩
    obtain ⟨before, rest, rfl⟩ := List.append_of_mem member
    exact ⟨before, hit, rest, rfl, .met meets⟩

/-- The slots of the index say what the calls say. -/
def Agrees (index : DestIndex) (calls : List Call) : Prop :=
  ∀ key entry flag, index.lookup key = some (entry, flag) ↔
    ∃ before since, LastInserted key calls entry before since ∧
      (flag = true ↔ MatchedSince key (before ++ [.insert entry]) since)

theorem Agrees.already {index : DestIndex} {calls : List Call} (agrees : Agrees index calls)
    {source : ObservedEntry} (directory : source.kind = .directory) :
    index.already source = true ↔ DirectoryMet calls source.path := by
  have key : slotKey source = (source.path, true) := by rw [slotKey, decide_eq_true directory]
  rw [DestIndex.already, key]
  constructor
  · intro set
    cases held : index.lookup (source.path, true) with
    | none =>
        rw [held] at set
        cases set
    | some keyed =>
        obtain ⟨entry, flag⟩ := keyed
        rw [held] at set
        obtain ⟨before, since, last, matched⟩ := (agrees _ _ _).1 held
        exact ⟨entry, before, since, last, matchedSince_directory.1 (matched.1 set)⟩
  · rintro ⟨entry, before, since, last, met⟩
    have held := (agrees (source.path, true) entry true).2
      ⟨before, since, last, iff_of_true rfl (matchedSince_directory.2 met)⟩
    rw [held]
    rfl

theorem Agrees.marks {index : DestIndex} {calls : List Call} (agrees : Agrees index calls)
    (key : SlotKey) (made : Call) : index.marks key made = true ↔ Matches calls key made := by
  cases made with
  | insert entry => exact iff_of_false Bool.false_ne_true (by rintro (⟨⟨⟩⟩ | _))
  | check source =>
      rw [DestIndex.marks, decide_eq_true_eq]
      constructor
      · exact fun same => .met (.check same.symm)
      · rintro (⟨⟨same⟩⟩ | _)
        exact same.symm
  | markMatched source =>
      rw [DestIndex.marks, Bool.or_eq_true, decide_eq_true_eq, decide_eq_true_eq]
      constructor
      · rintro (same | ⟨unmatched, carries, object⟩)
        · exact .met (.markMatched same.symm)
        · refine .carried carries object.symm fun met => ?_
          rw [(agrees.already carries.1).2 met] at unmatched
          cases unmatched
      · intro matched
        cases matched with
        | met meets =>
            cases meets with
            | markMatched same => exact .inl same.symm
        | carried carries object first =>
            refine .inr ⟨?_, carries, object.symm⟩
            rw [← Bool.not_eq_true, agrees.already carries.1]
            exact first
  | markDirectoryObjectMatched directory =>
      rw [DestIndex.marks, decide_eq_true_eq]
      constructor
      · exact fun same => .object same.symm
      · intro matched
        cases matched with
        | met meets => cases meets
        | object same => exact same.symm

theorem after_agrees (calls : List Call) : Agrees (after calls) calls := by
  induction calls using List.reverseRecOn with
  | nil =>
      intro key entry flag
      refine iff_of_false ?_ ?_
      · rw [after, lookup]
        cases key.2 <;> simp [new, find]
      · rintro ⟨before, since, last, -⟩
        exact absurd last.split.symm (List.append_ne_nil_of_right_ne_nil _ (List.cons_ne_nil _ _))
  | append_singleton earlier last ih =>
      intro key entry flag
      rw [after_append]
      by_cases inserted : ∃ later, last = .insert later ∧ slotKey later = key
      · obtain ⟨later, rfl, rfl⟩ := inserted
        rw [call, lookup_insert, if_pos rfl]
        constructor
        · intro same
          cases same
          refine ⟨earlier, [], lastInserted_append.2 (.inl ⟨rfl, rfl, rfl, rfl⟩), ?_⟩
          refine iff_of_false Bool.false_ne_true ?_
          rintro ⟨before, hit, rest, split, -⟩
          exact absurd split.symm (List.append_ne_nil_of_right_ne_nil _ (List.cons_ne_nil _ _))
        · rintro ⟨before, since, final, matched⟩
          obtain ⟨rfl, rfl, same, -⟩ | ⟨_, _, _, other⟩ := lastInserted_append.1 final
          · cases same
            have unmatched : flag = false := by
              rw [← Bool.not_eq_true, matched]
              rintro ⟨before, hit, rest, split, -⟩
              exact absurd split.symm (List.append_ne_nil_of_right_ne_nil _ (List.cons_ne_nil _ _))
            rw [unmatched]
          · exact absurd rfl (other later rfl)
      · have other : ∀ later, last = .insert later → slotKey later ≠ key :=
          fun later same slot => inserted ⟨later, same, slot⟩
        have extends_ {holder : ObservedEntry} {before since : List Call}
            (final : LastInserted key earlier holder before since) :
            MatchedSince key (before ++ [.insert holder]) (since ++ [last]) ↔
              MatchedSince key (before ++ [.insert holder]) since ∨
                (after earlier).marks key last = true := by
          have whole : before ++ [.insert holder] ++ since = earlier := by
            rw [final.split, List.append_assoc, List.singleton_append]
          rw [matchedSince_append, whole, ih.marks]
        rw [lookup_call other]
        constructor
        · intro held
          obtain ⟨⟨holder, before⟩, found, same⟩ := Option.map_eq_some_iff.1 held
          cases same
          obtain ⟨before, since, final, matched⟩ := (ih key holder _).1 found
          refine ⟨before, since ++ [last],
            lastInserted_append.2 (.inr ⟨since, rfl, final, other⟩), ?_⟩
          rw [extends_ final, Bool.or_eq_true, matched]
        · rintro ⟨before, all, final, matched⟩
          obtain ⟨_, _, same, slot⟩ | ⟨since, rfl, final, _⟩ := lastInserted_append.1 final
          · exact absurd slot (other entry same)
          · classical
            have found := (ih key entry (decide (MatchedSince key (before ++ [.insert entry]) since))).2
              ⟨before, since, final, decide_eq_true_iff⟩
            rw [found, flagged, Option.map_some, Option.some_inj, Prod.mk.injEq]
            refine ⟨rfl, Bool.eq_iff_iff.2 ?_⟩
            rw [matched, extends_ final, Bool.or_eq_true, decide_eq_true_eq]

/-! ### Orphans -/

def held (index : DestIndex) (directory : Bool) : Slot :=
  if directory then index.directories else index.files

/-- Entries lie in the slot of their kind, one for each path. -/
structure WellKeyed (directory : Bool) (slot : Slot) : Prop where
  kind : ∀ entry ∈ slot.map Prod.fst, (slotKey entry).2 = directory
  paths : ((slot.map Prod.fst).map (·.path)).Nodup

def WellSlotted (index : DestIndex) : Prop := ∀ directory, WellKeyed directory (index.held directory)

theorem mark_entries (slot : Slot) (path : RelativePath) :
    (mark slot path).map Prod.fst = slot.map Prod.fst := by
  rw [mark, List.map_map]
  refine List.map_congr_left fun keyed _ => ?_
  simp only [Function.comp_apply]
  split <;> rfl

theorem WellKeyed.mark {directory : Bool} {slot : Slot} (keyed : WellKeyed directory slot)
    (path : RelativePath) : WellKeyed directory (mark slot path) :=
  ⟨by rw [mark_entries]; exact keyed.kind, by rw [mark_entries]; exact keyed.paths⟩

theorem WellKeyed.insert {slot : Slot} {entry : ObservedEntry}
    (keyed : WellKeyed (slotKey entry).2 slot) :
    WellKeyed (slotKey entry).2 (slot.filter (fun held => held.1.path ≠ entry.path) ++ [(entry, false)]) := by
  refine ⟨fun other member => ?_, ?_⟩
  · rw [List.map_append, List.mem_append] at member
    cases member with
    | inl kept =>
        obtain ⟨held, within, rfl⟩ := List.mem_map.1 kept
        exact keyed.kind held.1 (List.mem_map_of_mem (List.mem_filter.1 within).1)
    | inr last =>
        cases List.mem_singleton.1 last
        rfl
  · rw [List.map_append, List.map_append, List.nodup_append]
    refine ⟨?_, List.nodup_singleton _, ?_⟩
    · exact keyed.paths.sublist ((List.filter_sublist.map _).map _)
    · intro path kept other last same
      obtain ⟨held, within, rfl⟩ := List.mem_map.1 kept
      obtain ⟨pair, member, rfl⟩ := List.mem_map.1 within
      have differs := (List.mem_filter.1 member).2
      rw [decide_eq_true_eq] at differs
      exact differs (same.trans (List.mem_singleton.1 last))

theorem WellSlotted.setSlot {index : DestIndex} (slotted : WellSlotted index) {entry : ObservedEntry}
    {slot : Slot} (keyed : WellKeyed (slotKey entry).2 slot) : WellSlotted (index.setSlot entry slot) := by
  intro directory
  have other := slotted directory
  rw [held] at other ⊢
  rw [slotKey] at keyed
  rw [DestIndex.setSlot]
  by_cases isDirectory : entry.kind = .directory
  · rw [decide_eq_true isDirectory] at keyed
    rw [if_pos isDirectory]
    cases directory with
    | false => exact other
    | true => exact keyed
  · rw [decide_eq_false isDirectory] at keyed
    rw [if_neg isDirectory]
    cases directory with
    | false => exact keyed
    | true => exact other

theorem WellSlotted.slot {index : DestIndex} (slotted : WellSlotted index) (entry : ObservedEntry) :
    WellKeyed (slotKey entry).2 (index.slot entry) := by
  rw [slot_eq]
  exact slotted (slotKey entry).2

theorem WellSlotted.markDirectoryObjectMatched {index : DestIndex} (slotted : WellSlotted index)
    (directory : ObservedEntry) : WellSlotted (index.markDirectoryObjectMatched directory) := by
  intro isDirectory
  cases isDirectory with
  | false => exact (slotted false).mark (markerPath directory)
  | true => exact slotted true

theorem WellSlotted.call {index : DestIndex} (slotted : WellSlotted index) (made : Call) :
    WellSlotted (index.call made) := by
  have marked (source : ObservedEntry) :
      WellSlotted (index.setSlot source (DestIndex.mark (index.slot source) source.path)) :=
    slotted.setSlot ((slotted.slot source).mark source.path)
  cases made with
  | insert entry => exact slotted.setSlot (slotted.slot entry).insert
  | check source =>
      rw [DestIndex.call, check]
      split
      · exact slotted
      · exact marked source
  | markMatched source =>
      rw [DestIndex.call, markMatched]
      split
      · exact (marked source).markDirectoryObjectMatched source
      · exact marked source
  | markDirectoryObjectMatched directory => exact slotted.markDirectoryObjectMatched directory

theorem after_wellSlotted (calls : List Call) : WellSlotted (after calls) := by
  induction calls using List.reverseRecOn with
  | nil =>
      intro directory
      cases directory <;> exact ⟨fun entry member => absurd member List.not_mem_nil, List.nodup_nil⟩
  | append_singleton earlier last ih =>
      rw [after_append]
      exact ih.call last

theorem WellKeyed.find_eq_some {directory : Bool} {slot : Slot} (keyed : WellKeyed directory slot)
    {holder : ObservedEntry × Bool} : find slot holder.1.path = some holder ↔ holder ∈ slot := by
  constructor
  · exact List.mem_of_find?_eq_some
  · intro member
    have present : (find slot holder.1.path).isSome := by
      rw [find, List.find?_isSome]
      exact ⟨holder, member, decide_eq_true rfl⟩
    obtain ⟨other, found⟩ := Option.isSome_iff_exists.1 present
    have same := List.find?_some found
    rw [decide_eq_true_eq] at same
    have paths := keyed.paths
    rw [List.map_map] at paths
    rw [found, List.inj_on_of_nodup_map paths (List.mem_of_find?_eq_some found) member same]

/-- The entries offered for deletion are the ones held with an unset flag. -/
theorem mem_orphanedEntries {index : DestIndex} (slotted : WellSlotted index) {entry : ObservedEntry} :
    entry ∈ index.orphanedEntries ↔ index.lookup (slotKey entry) = some (entry, false) := by
  have unset : entry ∈ index.orphanedEntries ↔ ∃ directory, (entry, false) ∈ index.held directory := by
    simp [orphanedEntries, held, List.mem_filter]
  rw [unset]
  constructor
  · rintro ⟨directory, member⟩
    have kind := (slotted directory).kind entry (List.mem_map_of_mem member)
    rw [lookup, kind]
    exact (slotted directory).find_eq_some.2 member
  · intro found
    exact ⟨(slotKey entry).2, List.mem_of_find?_eq_some found⟩

theorem nodup_orphanedEntries {index : DestIndex} (slotted : WellSlotted index) :
    index.orphanedEntries.Nodup := by
  have entries : ((index.files ++ index.directories).map Prod.fst).Nodup := by
    rw [List.map_append, List.nodup_append]
    refine ⟨(slotted false).paths.of_map _, (slotted true).paths.of_map _, fun file member directory member' same => ?_⟩
    have kind := (slotted false).kind file member
    rw [same, (slotted true).kind directory member'] at kind
    cases kind
  exact entries.sublist (List.filter_sublist.map _)

/-- The index offers for deletion, without duplicates, the entries inserted last into
their slot and not matched since. -/
theorem orphaned_entries_exact (calls : List Call) :
    (after calls).orphanedEntries.Nodup ∧
      ∀ entry, entry ∈ (after calls).orphanedEntries ↔ Unmatched calls entry := by
  refine ⟨nodup_orphanedEntries (after_wellSlotted calls), fun entry => ?_⟩
  rw [mem_orphanedEntries (after_wellSlotted calls), after_agrees calls]
  simp only [Bool.false_eq_true, false_iff]
  rfl

/-- A directory with versions, and the object that stands for it. -/
def versionedDirectory : ObservedEntry :=
  { ObservedEntry.new ['p'] .directory (some 0) none .s3 none with
    history := some [⟨some ['1'], true, false, some 0, none, none⟩] }

def directoryObject : ObservedEntry := .new ['p', '/'] .file (some 0) none .s3 none

/-- After a `check` of the directory, its only `mark_matched` leaves the object an orphan. -/
theorem checked_directory_keeps_object_orphan :
    let calls : List Call := [.insert versionedDirectory, .insert directoryObject,
      .check versionedDirectory, .markMatched versionedDirectory]
    calls.count (.markMatched versionedDirectory) = 1 ∧ CarriesObject versionedDirectory ∧
      objectKey versionedDirectory = slotKey directoryObject ∧
      directoryObject ∈ (after calls).orphanedEntries := by
  decide

end DestIndex

end Terrasync.Transport
