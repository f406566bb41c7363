import Mathlib.Data.List.Nodup
import Terrasync.Scan.Packaging

/-! Which files a packaged walk carries. No file is carried twice. Files of a selected
directory are carried only inside the archive of a directory at the package level. -/

set_option autoImplicit false

namespace Terrasync.Scan

theorem parts_relativePath (path : List EntryName) :
    parts (relativePath path) = path.map EntryName.chars := by
  cases path with
  | nil => rfl
  | cons first rest =>
      rw [parts, relativePath, List.splitOn_intercalate]
      · refine List.filter_eq_self.2 fun chars member => ?_
        obtain ⟨name, -, rfl⟩ := List.mem_map.1 member
        exact decide_eq_true name.nonempty
      · intro chars member
        obtain ⟨name, -, rfl⟩ := List.mem_map.1 member
        exact name.noSeparator
      · exact List.cons_ne_nil _ _

namespace PackageFilter

variable {Metadata : Type} [Inhabited Metadata] {parseFromStr : DateFormat → List Char → Bool}
variable {filter : PackageFilter Metadata} {above names : List (List Char)} {selected : Nat}

theorem selectFrom_bounds (found : filter.selectFrom parseFromStr above names = some selected) :
    above.length < selected ∧ selected ≤ above.length + names.length := by
  induction names generalizing above with
  | nil => exact absurd found (Option.some_ne_none _).symm
  | cons name rest ih =>
      rw [selectFrom] at found
      split at found
      · obtain rfl := Option.some.inj found
        simp only [List.length_cons]
        omega
      · have bounds := ih found
        simp only [List.length_append, List.length_cons, List.length_nil] at bounds ⊢
        omega

theorem selectFrom_append (more : List (List Char)) :
    filter.selectFrom parseFromStr above (names ++ more) =
      (filter.selectFrom parseFromStr above names).or
        (filter.selectFrom parseFromStr (above ++ names) more) := by
  induction names generalizing above with
  | nil => simp only [List.nil_append, selectFrom, Option.none_or, List.append_nil]
  | cons name rest ih =>
      rw [List.cons_append, selectFrom, selectFrom]
      split
      · rfl
      · rw [ih, List.append_assoc, List.singleton_append]

/-- An initial part selects what the whole selects, if it is long enough. -/
theorem selectFrom_initial (more : List (List Char)) :
    filter.selectFrom parseFromStr [] names = some selected ↔
      filter.selectFrom parseFromStr [] (names ++ more) = some selected ∧
        selected ≤ names.length := by
  rw [selectFrom_append]
  cases chosen : filter.selectFrom parseFromStr [] names with
  | none =>
      simp only [Option.none_or, reduceCtorEq, false_iff, not_and, Nat.not_le, List.nil_append]
      intro found
      exact (selectFrom_bounds found).1
  | some earlier =>
      have bounds := (selectFrom_bounds chosen).2
      simp only [Option.some_or, Option.some.injEq, List.length_nil, Nat.zero_add] at bounds ⊢
      constructor
      · rintro rfl
        exact ⟨rfl, bounds⟩
      · exact And.left

def level (filter : PackageFilter Metadata) (selected : Nat) : Nat :=
  (selected + filter.extraDepth) % 2 ^ 64

theorem targetDepth_directory (enabled : filter.enabled = true) (path : List EntryName) :
    filter.targetDepth parseFromStr (relativePath path) true =
      (filter.selectFrom parseFromStr [] (path.map EntryName.chars)).map filter.level := by
  rw [targetDepth, if_pos enabled, parts_relativePath, if_pos rfl, Nat.sub_zero, List.take_length]
  rfl

theorem targetDepth_file (enabled : filter.enabled = true) (path : List EntryName) :
    filter.targetDepth parseFromStr (relativePath path) false =
      (filter.selectFrom parseFromStr [] (path.dropLast.map EntryName.chars)).map filter.level := by
  rw [targetDepth, if_pos enabled, parts_relativePath, if_neg Bool.false_ne_true,
    ← List.dropLast_eq_take, List.map_dropLast]
  rfl

theorem packagedPath_iff (enabled : filter.enabled = true) {path : List EntryName} :
    filter.packagedPath parseFromStr (relativePath path) = true ↔
      ∃ selected, filter.selectFrom parseFromStr [] (path.map EntryName.chars) = some selected ∧
        filter.level selected = path.length := by
  rw [packagedPath, decide_eq_true_eq, targetDepth_directory enabled, parts_relativePath,
    List.length_map, Option.map_eq_some_iff]

section Decisions

variable {path : List EntryName} {file : FileObservation Metadata}
variable {directory : DirectoryObservation Metadata}

theorem decide_directory_unselected (enabled : filter.enabled = true)
    (unselected : filter.selectFrom parseFromStr [] (path.map EntryName.chars) = none) :
    filter.decide parseFromStr (candidateOf path (.inr directory)) =
      { filter.dsl (candidateOf path (.inr directory)) with filterChildren := true } := by
  have depth : filter.targetDepth parseFromStr (relativePath path) true = _ :=
    targetDepth_directory enabled path
  rw [unselected] at depth
  simp only [decide, candidateOf, TreeNode.kind, decide_true, depth, Option.map_none]

theorem decide_directory_selected (enabled : filter.enabled = true)
    (unlimited : filter.maximum = none)
    (found : filter.selectFrom parseFromStr [] (path.map EntryName.chars) = some selected) :
    filter.decide parseFromStr (candidateOf path (.inr directory)) =
      if path.length = filter.level selected then
        { filter.dsl (candidateOf path (.inr directory)) with descend := false, filterChildren := true }
      else { filter.dsl (candidateOf path (.inr directory)) with emit := false, filterChildren := true } := by
  have depth : filter.targetDepth parseFromStr (relativePath path) true = _ :=
    targetDepth_directory enabled path
  rw [found] at depth
  simp only [decide, candidateOf, TreeNode.kind, decide_true, depth, Option.map_some, unlimited,
    Option.any_none, Bool.false_eq_true, if_false, parts_relativePath, List.length_map, and_true]
  split <;> rfl

theorem decide_file_unselected (enabled : filter.enabled = true)
    (unselected : filter.selectFrom parseFromStr [] (path.dropLast.map EntryName.chars) = none) :
    filter.decide parseFromStr (candidateOf path (.inl file)) =
      { filter.dsl (candidateOf path (.inl file)) with filterChildren := true } := by
  have depth : filter.targetDepth parseFromStr (relativePath path) false = _ :=
    targetDepth_file enabled path
  rw [unselected] at depth
  simp only [decide, candidateOf, TreeNode.kind, file.notDirectory, decide_false, depth,
    Option.map_none]

theorem decide_file_selected (enabled : filter.enabled = true)
    (unlimited : filter.maximum = none)
    (found : filter.selectFrom parseFromStr [] (path.dropLast.map EntryName.chars) =
      some selected) :
    (filter.decide parseFromStr (candidateOf path (.inl file))).emit = false := by
  have depth : filter.targetDepth parseFromStr (relativePath path) false = _ :=
    targetDepth_file enabled path
  rw [found] at depth
  simp only [decide, candidateOf, TreeNode.kind, file.notDirectory, decide_false, depth,
    Option.map_some, unlimited, Option.any_none, Bool.false_eq_true, if_false, and_false]

end Decisions

end PackageFilter

namespace DirectoryTree

open PackageFilter

variable {Metadata : Type} [Inhabited Metadata] {parseFromStr : DateFormat → List Char → Bool}
variable {filter : PackageFilter Metadata} {tree : DirectoryTree Metadata}
variable {file path upper : List EntryName} {node : TreeNode Metadata}
variable {observation : FileObservation Metadata} {selected : Nat}

/-- The filter expressions alone lead to the path. -/
def DslReaches (filter : PackageFilter Metadata) (tree : DirectoryTree Metadata)
    (path : List EntryName) : Prop :=
  tree.forest.Reached (fun upper node => (filter.dsl (candidateOf upper node)).descend) [] path

/-- A file of no selected directory is reached by itself. Any other lies strictly below a
directory at the package level which is reached and which the filter expressions emit. -/
def PackageReaches (parseFromStr : DateFormat → List Char → Bool) (filter : PackageFilter Metadata)
    (tree : DirectoryTree Metadata) (file : List EntryName) : Prop :=
  match filter.selectFrom parseFromStr [] (file.dropLast.map EntryName.chars) with
  | none => DslReaches filter tree file
  | some selected =>
      selected ≤ filter.level selected ∧ filter.level selected < file.length ∧
        DslReaches filter tree (file.take (filter.level selected)) ∧
        ∃ directory, tree.forest.lookup (file.take (filter.level selected)) = some (.inr directory) ∧
          (filter.dsl (candidateOf (file.take (filter.level selected)) (.inr directory))).emit = true

theorem mem_traversal :
    (path, node) ∈ tree.traversal parseFromStr filter ↔
      tree.forest.lookup path = some node ∧
        (filter.decide parseFromStr (candidateOf path node)).emit = true ∧
        tree.forest.Reached
          (fun path node => (filter.decide parseFromStr (candidateOf path node)).descend) [] path := by
  rw [traversal, Lib.Forest.mem_walk tree.distinct]
  simp only [List.nil_append, exists_eq_left']

omit [Inhabited Metadata] in
theorem mem_packDirectory (found : tree.forest.lookup file = some node) :
    file ∈ tree.packDirectory path ↔ path <+: file ∧ path ≠ file := by
  rw [packDirectory, List.mem_map]
  constructor
  · rintro ⟨⟨inner, label⟩, member, rfl⟩
    obtain ⟨lower, rfl, lookedUp, -⟩ :=
      (Lib.Forest.mem_walk (Lib.Forest.distinct_childrenAt tree.distinct)).1 member
    refine ⟨List.prefix_append _ _, fun same => ?_⟩
    rw [List.self_eq_append_right.1 same, Lib.Forest.lookup_empty] at lookedUp
    exact Option.some_ne_none _ lookedUp.symm
  · rintro ⟨⟨lower, rfl⟩, strict⟩
    have lowerNonempty : lower ≠ [] := fun last => strict (by rw [last, List.append_nil])
    have lookedUp : (tree.forest.childrenAt path).lookup lower = some node := by
      rw [Lib.Forest.lookup_childrenAt lowerNonempty, found]
    exact ⟨(path ++ lower, node), (Lib.Forest.mem_walk
      (Lib.Forest.distinct_childrenAt tree.distinct)).2
        ⟨lower, rfl, lookedUp, rfl, Lib.Forest.reached_unpruned lookedUp⟩, rfl⟩

theorem carries_deliver (found : tree.forest.lookup file = some (.inl observation))
    (lookedUp : tree.forest.lookup path = some node) :
    tree.carries file (deliver parseFromStr filter (path, node)) = true ↔
      path = file ∨ (path <+: file ∧ path ≠ file ∧
        filter.packagedPath parseFromStr (relativePath path) = true) := by
  have nonempty : path ≠ [] := by
    rintro rfl
    rw [Lib.Forest.lookup_empty] at lookedUp
    exact Option.some_ne_none _ lookedUp.symm
  cases node with
  | inl label =>
      simp only [deliver, Sum.isRight_inl, Bool.false_and, Bool.false_eq_true, if_false, carries,
        decide_eq_true_eq]
      refine ⟨.inl, fun covered => covered.resolve_right ?_⟩
      rintro ⟨⟨lower, rfl⟩, strict, -⟩
      obtain ⟨branchLabel, branch⟩ := Lib.Forest.lookup_above found nonempty
        fun last => strict (by rw [last, List.append_nil])
      rw [lookedUp] at branch
      cases branch
  | inr label =>
      have other : path ≠ file := by
        rintro rfl
        rw [lookedUp] at found
        cases found
      simp only [deliver, Sum.isRight_inr, Bool.true_and]
      by_cases packaged : filter.packagedPath parseFromStr (relativePath path) = true
      · rw [if_pos packaged, carries, decide_eq_true_eq, mem_packDirectory found]
        simp only [packaged, and_true, other, false_or]
      · rw [if_neg packaged, carries, decide_eq_true_eq]
        simp only [packaged, Bool.false_eq_true, and_false, or_false]

/-- A list without repetitions counts at most one member, if only one can be counted. -/
theorem countP_of_unique {Member : Type} {members : List Member} {counts : Member → Bool}
    {only : Member} (nodup : members.Nodup)
    (unique : ∀ member ∈ members, counts member = true → member = only) :
    members.countP counts ≤ 1 ∧
      (members.countP counts = 1 ↔ only ∈ members ∧ counts only = true) := by
  classical
  have bound : members.countP counts ≤ 1 := by
    calc members.countP counts
        ≤ members.countP (· = only) := List.countP_mono_left fun member known counted =>
          decide_eq_true (unique member known counted)
      _ = members.count only := by rw [List.count_eq_countP]; congr
      _ ≤ 1 := List.nodup_iff_count_le_one.1 nodup only
  refine ⟨bound, fun one => ?_, fun ⟨known, counted⟩ => ?_⟩
  · obtain ⟨member, known, counted⟩ := List.countP_pos_iff.1 (by omega : 0 < members.countP counts)
    obtain rfl := unique member known counted
    exact ⟨known, counted⟩
  · have positive := List.countP_pos_iff.2 ⟨only, known, counted⟩
    omega

theorem nodup_traversal : (tree.traversal parseFromStr filter).Nodup :=
  Lib.Forest.nodup_walk tree.distinct

theorem coverage_eq :
    tree.coverage parseFromStr filter file = (tree.traversal parseFromStr filter).countP
      fun entry => tree.carries file (deliver parseFromStr filter entry) := by
  rw [coverage, walkdir, List.countP_map]
  rfl

/-- A proper initial part of a file's path stays within the path of its directory. -/
theorem dropLast_extends (inside : upper <+: file) (strict : upper ≠ file) :
    ∃ more, file.dropLast.map EntryName.chars = upper.map EntryName.chars ++ more := by
  obtain ⟨lower, rfl⟩ := inside
  have nonempty : lower ≠ [] := fun last => strict (by rw [last, List.append_nil])
  exact ⟨lower.dropLast.map EntryName.chars,
    by rw [List.dropLast_append_of_ne_nil nonempty, List.map_append]⟩

theorem coverage_unselected (enabled : filter.enabled = true)
    (found : tree.forest.lookup file = some (.inl observation))
    (emitted : (filter.dsl (candidateOf file (.inl observation))).emit = true)
    (unselected : filter.selectFrom parseFromStr [] (file.dropLast.map EntryName.chars) = none) :
    tree.coverage parseFromStr filter file ≤ 1 ∧
      (tree.coverage parseFromStr filter file = 1 ↔ DslReaches filter tree file) := by
  have unselectedAbove : ∀ upper, upper <+: file → upper ≠ file →
      filter.selectFrom parseFromStr [] (upper.map EntryName.chars) = none := by
    intro upper inside strict
    obtain ⟨more, extends_⟩ := dropLast_extends inside strict
    rw [extends_, selectFrom_append, Option.or_eq_none_iff] at unselected
    exact unselected.1
  have carried : tree.carries file (deliver parseFromStr filter (file, .inl observation)) = true :=
    (carries_deliver found found).2 (.inl rfl)
  have unique : ∀ entry ∈ tree.traversal parseFromStr filter,
      tree.carries file (deliver parseFromStr filter entry) = true →
        entry = (file, .inl observation) := by
    rintro ⟨path, node⟩ member counted
    obtain ⟨lookedUp, -, -⟩ := mem_traversal.1 member
    rcases (carries_deliver found lookedUp).1 counted with rfl | ⟨inside, strict, packaged⟩
    · rw [found, Option.some.injEq] at lookedUp
      rw [lookedUp]
    · obtain ⟨selected, chosen, -⟩ := (packagedPath_iff enabled).1 packaged
      rw [unselectedAbove path inside strict] at chosen
      exact absurd chosen (Option.some_ne_none _).symm
  obtain ⟨bound, once⟩ := countP_of_unique nodup_traversal unique
  rw [coverage_eq]
  refine ⟨bound, once.trans ?_⟩
  rw [mem_traversal, decide_file_unselected enabled unselected]
  simp only [found, emitted, carried, true_and, and_true]
  refine Lib.Forest.reached_agree found fun upper directory inside strict => ?_
  rw [List.nil_append, decide_directory_unselected enabled (unselectedAbove upper inside strict)]

theorem coverage_selected (enabled : filter.enabled = true) (unlimited : filter.maximum = none)
    (found : tree.forest.lookup file = some (.inl observation))
    (chosen : filter.selectFrom parseFromStr [] (file.dropLast.map EntryName.chars) =
      some selected) :
    tree.coverage parseFromStr filter file ≤ 1 ∧
      (tree.coverage parseFromStr filter file = 1 ↔
        selected ≤ filter.level selected ∧ filter.level selected < file.length ∧
          DslReaches filter tree (file.take (filter.level selected)) ∧
          ∃ directory,
            tree.forest.lookup (file.take (filter.level selected)) = some (.inr directory) ∧
            (filter.dsl (candidateOf (file.take (filter.level selected)) (.inr directory))).emit =
              true) := by
  have chosenAbove : ∀ upper other, upper <+: file → upper ≠ file →
      (filter.selectFrom parseFromStr [] (upper.map EntryName.chars) = some other ↔
        selected = other ∧ other ≤ upper.length) := by
    intro upper other inside strict
    obtain ⟨more, equal⟩ := dropLast_extends inside strict
    rw [selectFrom_initial more, ← equal, chosen, Option.some.injEq, List.length_map]
  -- The only message that can carry the file is the package at the level.
  have carrier : ∀ entry ∈ tree.traversal parseFromStr filter,
      tree.carries file (deliver parseFromStr filter entry) = true →
        selected ≤ filter.level selected ∧ filter.level selected < file.length ∧
          entry.1 = file.take (filter.level selected) := by
    rintro ⟨path, node⟩ member counted
    obtain ⟨lookedUp, emits, -⟩ := mem_traversal.1 member
    rcases (carries_deliver found lookedUp).1 counted with rfl | ⟨inside, strict, packaged⟩
    · rw [found, Option.some.injEq] at lookedUp
      rw [← lookedUp, decide_file_selected enabled unlimited chosen] at emits
      exact absurd emits Bool.false_ne_true
    · obtain ⟨other, select, level⟩ := (packagedPath_iff enabled).1 packaged
      obtain ⟨rfl, within⟩ := (chosenAbove path other inside strict).1 select
      have shorter := inside.length_le
      have differs : path.length ≠ file.length := fun same => strict (inside.eq_of_length same)
      rw [level]
      exact ⟨within, by omega, List.prefix_iff_eq_take.1 inside⟩
  rw [coverage_eq]
  by_cases between : selected ≤ filter.level selected ∧ filter.level selected < file.length
  · obtain ⟨package, equal⟩ : ∃ package, package = file.take (filter.level selected) := ⟨_, rfl⟩
    have depth : package.length = filter.level selected := by
      rw [equal, List.length_take]
      omega
    have inside : package <+: file := equal ▸ List.take_prefix _ _
    have strict : package ≠ file := fun same => by rw [← same] at between; omega
    have positive := (selectFrom_bounds chosen).1
    have proper : package ≠ [] := fun root => by
      rw [root, List.length_nil] at depth
      omega
    have select := (chosenAbove package selected inside strict).2 ⟨rfl, by omega⟩
    obtain ⟨directory, lookedUp⟩ : ∃ directory, tree.forest.lookup package = some (.inr directory) := by
      obtain ⟨lower, rfl⟩ := inside
      exact Lib.Forest.lookup_above found proper fun last => strict (by rw [last, List.append_nil])
    have carried : tree.carries file (deliver parseFromStr filter (package, .inr directory)) = true :=
      (carries_deliver found lookedUp).2
        (.inr ⟨inside, strict, (packagedPath_iff enabled).2 ⟨selected, select, depth.symm⟩⟩)
    have unique : ∀ entry ∈ tree.traversal parseFromStr filter,
        tree.carries file (deliver parseFromStr filter entry) = true →
          entry = (package, .inr directory) := by
      rintro ⟨path, node⟩ member counted
      obtain ⟨-, -, located⟩ := carrier _ member counted
      obtain rfl : path = package := located.trans equal.symm
      have same := (mem_traversal.1 member).1
      rw [lookedUp, Option.some.injEq] at same
      rw [same]
    obtain ⟨bound, once⟩ := countP_of_unique nodup_traversal unique
    refine ⟨bound, once.trans ?_⟩
    rw [← equal, mem_traversal, decide_directory_selected enabled unlimited select, if_pos depth]
    simp only [lookedUp, carried, between, true_and, and_true, Option.some.injEq, Sum.inr.injEq,
      exists_eq_left']
    rw [and_comm]
    refine and_congr_left fun _ => Lib.Forest.reached_agree lookedUp fun upper above within below => ?_
    have shorter := within.length_le
    have differs : upper.length ≠ package.length := fun same => below (within.eq_of_length same)
    rw [List.nil_append]
    cases first : filter.selectFrom parseFromStr [] (upper.map EntryName.chars) with
    | none => rw [decide_directory_unselected enabled first]
    | some other =>
        obtain ⟨rfl, -⟩ := (chosenAbove upper other (within.trans inside)
          (fun same => by rw [same] at shorter differs; have := inside.length_le; omega)).1 first
        rw [decide_directory_selected enabled unlimited first, if_neg (by omega)]
  · have none : (tree.traversal parseFromStr filter).countP
        (fun entry => tree.carries file (deliver parseFromStr filter entry)) = 0 := by
      refine List.countP_eq_zero.2 fun entry member counted => ?_
      obtain ⟨above, below, -⟩ := carrier entry member counted
      exact between ⟨above, below⟩
    rw [none]
    refine ⟨Nat.zero_le _, fun one => absurd one (by decide), fun reaches => ?_⟩
    exact absurd ⟨reaches.1, reaches.2.1⟩ between

/-- A packaged walk without a depth limit carries no emitted file twice, and carries it
exactly when its package or, outside selected directories, the file itself is reached. -/
theorem packaged_walk_carries {Expression : Type}
    (parseFromStr : DateFormat → List Char → Bool)
    (dslTraversalFilter : Option Expression → Option Expression →
      TraversalCandidate Metadata → TraversalDecision)
    (options : WalkOptions Expression) (packaged : options.packaged = true)
    (matched : options.matchExpressions.isSome = true)
    (unlimited : options.depth.filter (0 < ·) = none)
    (tree : DirectoryTree Metadata) (file : List EntryName) (observation : FileObservation Metadata)
    (found : tree.forest.lookup file = some (.inl observation))
    (emitted : (dslTraversalFilter options.matchExpressions options.excludeExpressions
      (candidateOf file (.inl observation))).emit = true) :
    tree.coverage parseFromStr (.new dslTraversalFilter options) file ≤ 1 ∧
      (tree.coverage parseFromStr (.new dslTraversalFilter options) file = 1 ↔
        PackageReaches parseFromStr (.new dslTraversalFilter options) tree file) := by
  have enabled : (PackageFilter.new dslTraversalFilter options).enabled = true := by
    rw [PackageFilter.new, packaged, matched, Bool.and_self]
  rw [PackageReaches]
  cases chosen : (PackageFilter.new dslTraversalFilter options).selectFrom parseFromStr []
      (file.dropLast.map EntryName.chars) with
  | none => exact coverage_unselected enabled found emitted chosen
  | some selected => exact coverage_selected enabled unlimited found chosen

end DirectoryTree

section Samples

def sampleDigits (chars : List Char) : Option Nat :=
  if chars.all (·.isDigit) then
    some (chars.foldl (fun value char => 10 * value + (char.toNat - '0'.toNat)) 0)
  else none

/-- The calendar dates among plain digit strings, but for the length of a month. -/
def sampleCalendar (format : DateFormat) (value : List Char) : Bool :=
  let compact := match format, value with
    | .dashed, [a, b, c, d, '-', e, f, '-', g, h] => [a, b, c, d, e, f, g, h]
    | .dashed, _ => []
    | .compact, value => value
    | .short, value => '2' :: '0' :: value
  compact.length = 8 &&
    (sampleDigits compact).any fun date =>
      decide (1 ≤ date / 100 % 100 ∧ date / 100 % 100 ≤ 12 ∧ 1 ≤ date % 100 ∧ date % 100 ≤ 28)

def sampleOptions (packageDepth : Nat) : WalkOptions Unit where
  matchExpressions := some ()
  excludeExpressions := none
  depth := none
  packaged := true
  packageDepth

def emitAll (_ _ : Option Unit) (_ : TraversalCandidate Unit) : TraversalDecision where
  emit := true
  descend := true
  filterChildren := false

def dateDirectory : EntryName where
  chars := ['2', '0', '2', '5', '0', '1', '0', '1']
  nonempty := by decide
  noSeparator := by decide

def dataFile : EntryName where
  chars := ['d', 'a', 't', 'a']
  nonempty := by decide
  noSeparator := by decide

def sampleObservation : FileObservation Unit where
  size := some 7
  modified := some 0
  metadata := ()
  kind := .file
  notDirectory := by decide

/-- A file right below a date directory. -/
def sampleTree : DirectoryTree Unit where
  forest := .branch dateDirectory ⟨none, some 0, ()⟩ (.leaf dataFile sampleObservation .nil) .nil
  distinct := by decide

/-- One level further down is packaged, and the file is left out. -/
theorem loose_file_left_out :
    dateName sampleCalendar dateDirectory.chars = true ∧
      sampleTree.forest.lookup [dateDirectory, dataFile] = some (.inl sampleObservation) ∧
      (emitAll (some ()) none
        (candidateOf [dateDirectory, dataFile] (.inl sampleObservation))).emit = true ∧
      ¬sampleTree.coverage sampleCalendar (.new emitAll (sampleOptions 1))
        [dateDirectory, dataFile] = 1 := by
  refine ⟨by decide, rfl, rfl, by decide⟩

theorem packaged_walk_carries_data :
    sampleTree.coverage sampleCalendar (.new emitAll (sampleOptions 0))
        [dateDirectory, dataFile] ≤ 1 ∧
      (sampleTree.coverage sampleCalendar (.new emitAll (sampleOptions 0))
        [dateDirectory, dataFile] = 1 ↔
        DirectoryTree.PackageReaches sampleCalendar (.new emitAll (sampleOptions 0)) sampleTree
          [dateDirectory, dataFile]) :=
  DirectoryTree.packaged_walk_carries sampleCalendar emitAll (sampleOptions 0) rfl rfl rfl sampleTree
    [dateDirectory, dataFile] sampleObservation rfl rfl

end Samples

end Terrasync.Scan
