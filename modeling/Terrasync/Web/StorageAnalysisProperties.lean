import Mathlib.Data.List.Infix
import Terrasync.Web.StorageAnalysis

/-! What the storage analysis conserves: the returned nodes divide the files below a path
among them, the merged ones come last, and a directory node can be descended into exactly
where its name is a proper path part and no key ends behind it. -/

set_option autoImplicit false

namespace Terrasync.Web.Analysis

open Lib (groupBy rowNumber)

/-! ### Entries below a path -/

/-- Strictly below: the path, a separator and something more; below all of a scan is every
path that is not empty. -/
def Below (path : Text) (entry : Entry) : Prop :=
  startOf path <+: entry.entryPath ∧ entry.entryPath ≠ startOf path

instance (path : Text) (entry : Entry) : Decidable (Below path entry) :=
  inferInstanceAs (Decidable (_ ∧ _))

def filesBelow (path : Text) (entries : List Entry) : List Entry :=
  entries.filter fun entry => entry.isFile && decide (Below path entry)

theorem mem_filesBelow {path : Text} {entries : List Entry} {entry : Entry} :
    entry ∈ filesBelow path entries ↔ entry ∈ entries ∧ entry.isFile ∧ Below path entry := by
  rw [filesBelow, List.mem_filter, Bool.and_eq_true, decide_eq_true_eq]

theorem inScope_file {path : Text} {entry : Entry} (file : entry.isFile = true) :
    inScope (startOf path) entry = decide (Below path entry) := by
  rw [inScope, file, Bool.true_or, Bool.and_true, Bool.eq_iff_iff, Bool.and_eq_true, Bool.and_eq_true,
    List.isPrefixOf_iff_prefix, decide_eq_true_eq, decide_eq_true_eq, decide_eq_true_eq, Below]
  constructor
  · exact fun ⟨below, _⟩ => below
  · rintro ⟨starts, other⟩
    refine ⟨⟨starts, other⟩, ?_⟩
    rintro empty
    rw [empty] at starts other
    exact other (List.prefix_nil.mp starts).symm

theorem filter_inScope (path : Text) (entries : List Entry) :
    (entries.filter (inScope (startOf path))).filter Entry.isFile = filesBelow path entries := by
  rw [List.filter_filter, filesBelow]
  refine List.filter_congr fun entry _ => ?_
  cases file : entry.isFile with
  | true => rw [inScope_file file]
  | false => rw [Bool.false_and, Bool.false_and]

theorem sum_filter {Row : Type} (keeps : Row → Bool) (amount : Row → Nat) (rows : List Row) :
    ((rows.filter keeps).map amount).sum = (rows.map fun row => if keeps row then amount row else 0).sum := by
  induction rows with
  | nil => rfl
  | cons row rows ih =>
      cases kept : keeps row with
      | true => simp [kept, ih]
      | false => simp [kept, ih]

theorem countP_eq_sum {Row : Type} (keeps : Row → Bool) (rows : List Row) :
    rows.countP keeps = ((rows.filter keeps).map fun _ => 1).sum := by
  rw [List.countP_eq_length_filter, List.map_const', List.sum_replicate, Nat.nsmul_eq_mul, Nat.mul_one]

/-- A sum over the groups whose key is kept is a sum over their rows. -/
theorem sum_groupBy_filter {Row Key : Type} [DecidableEq Key] (key : Row → Key) (keeps : Key → Bool)
    (amount : Row → Nat) (rows : List Row) :
    (((groupBy key rows).filter fun group => keeps group.1).map fun group => (group.2.map amount).sum).sum =
      ((rows.filter fun row => keeps (key row)).map amount).sum := by
  have groups : ∀ group ∈ groupBy key rows, (if keeps group.1 then (group.2.map amount).sum else 0) =
      (group.2.map fun row => if keeps (key row) then amount row else 0).sum := by
    intro group member
    have same : ∀ row ∈ group.2, key row = group.1 := by
      intro row inside
      rw [(Lib.mem_groupBy.mp member).2] at inside
      exact of_decide_eq_true (List.mem_filter.mp inside).2
    cases kept : keeps group.1 with
    | true =>
        rw [if_pos rfl]
        refine congrArg List.sum (List.map_congr_left fun row inside => ?_)
        rw [same row inside, kept, if_pos rfl]
    | false =>
        rw [if_neg Bool.false_ne_true]
        refine (List.sum_eq_zero fun value inside => ?_).symm
        obtain ⟨row, here, rfl⟩ := List.mem_map.mp inside
        rw [same row here, kept, if_neg Bool.false_ne_true]
  rw [sum_filter, List.map_congr_left groups, Lib.sum_groupBy, ← sum_filter]

/-! ### Children -/

section Children

variable (path : Text) (entries : List Entry)

theorem keys_grouped : (grouped (startOf path) entries).map NodeRow.key =
    ((entries.filter (inScope (startOf path))).map (childKey (startOf path))).dedup := by
  rw [grouped, List.map_map, ← Lib.keys_groupBy]
  rfl

theorem nodup_keys_grouped : ((grouped (startOf path) entries).map NodeRow.key).Nodup := by
  rw [keys_grouped]
  exact List.nodup_dedup _

/-- The bytes and files of the children whose keys are kept are those of their entries. -/
theorem sums_grouped (keeps : NodeKey → Bool) :
    (((grouped (startOf path) entries).filter fun child => keeps child.key).map NodeRow.bytes).sum =
        (((filesBelow path entries).filter fun entry => keeps (childKey (startOf path) entry)).map
          Entry.logicalBytes).sum ∧
      (((grouped (startOf path) entries).filter fun child => keeps child.key).map NodeRow.fileCount).sum =
        ((filesBelow path entries).filter fun entry => keeps (childKey (startOf path) entry)).length := by
  have children : ∀ amount : Entry → Nat,
      (((groupBy (childKey (startOf path)) (entries.filter (inScope (startOf path)))).filter fun group =>
          keeps group.1).map fun group => ((group.2.filter Entry.isFile).map amount).sum).sum =
        (((filesBelow path entries).filter fun entry => keeps (childKey (startOf path) entry)).map amount).sum := by
    intro amount
    simp only [sum_filter Entry.isFile]
    rw [sum_groupBy_filter, ← sum_filter, ← filter_inScope, List.filter_comm]
  constructor
  · rw [grouped, List.filter_map, List.map_map]
    exact children Entry.logicalBytes
  · have counted := children fun _ => 1
    rw [List.map_const', List.sum_replicate, Nat.nsmul_eq_mul, Nat.mul_one] at counted
    rw [grouped, List.filter_map, List.map_map, ← counted]
    refine congrArg List.sum (List.map_congr_left fun group _ => ?_)
    exact countP_eq_sum Entry.isFile group.2

/-- A child has the bytes and files of its entries. -/
theorem child_contents {child : NodeRow} (member : child ∈ grouped (startOf path) entries) :
    child.bytes = (((filesBelow path entries).filter fun entry =>
        childKey (startOf path) entry = child.key).map Entry.logicalBytes).sum ∧
      child.fileCount = ((filesBelow path entries).filter fun entry =>
        childKey (startOf path) entry = child.key).length := by
  obtain ⟨group, inside, rfl⟩ := List.mem_map.mp member
  have files : group.2.filter Entry.isFile =
      (filesBelow path entries).filter fun entry => childKey (startOf path) entry = group.1 := by
    rw [(Lib.mem_groupBy.mp inside).2, List.filter_comm, filter_inScope]
  constructor
  · exact congrArg (fun rows : List Entry => (rows.map Entry.logicalBytes).sum) files
  · exact List.countP_eq_length_filter.trans (congrArg List.length files)

/-- Every child is a directory or a file, named by what follows the start of its path. -/
theorem child_shape {child : NodeRow} (member : child ∈ grouped (startOf path) entries) :
    child.path = startOf path ++ child.name ∧ child.kind ≠ .other ∧ '/' ∉ child.name := by
  obtain ⟨group, inside, rfl⟩ := List.mem_map.mp member
  obtain ⟨entry, -, here⟩ := List.mem_map.mp (Lib.mem_groupBy.mp inside).1
  have key : group.1 = childKey (startOf path) entry := here.symm
  rw [summarize, key, childKey]
  refine ⟨rfl, ?_, fun slash => ?_⟩
  · dsimp only
    split
    · exact NodeKind.noConfusion
    · exact NodeKind.noConfusion
  · have part := List.mem_takeWhile_imp slash
    exact absurd rfl (of_decide_eq_true part)

theorem nodup_windowOrder (metric : AnalysisMetric) :
    ((grouped (startOf path) entries).map (windowOrder metric)).Nodup := by
  refine List.Nodup.map_on ?_ (List.Nodup.of_map _ (nodup_keys_grouped path entries))
  intro first firstMember second secondMember same
  have pair : (first.path, first.kind.rank) = (second.path, second.kind.rank) :=
    congrArg (fun order => ofLex (ofLex order).2) same
  have paths : first.path = second.path := congrArg Prod.fst pair
  have kinds : first.kind = second.kind := by
    have ranks : first.kind.rank = second.kind.rank := congrArg Prod.snd pair
    cases firstKind : first.kind <;> cases secondKind : second.kind <;> rw [firstKind, secondKind] at ranks <;>
      first | rfl | cases ranks
  have names : first.name = second.name := by
    have shapes := paths
    rw [(child_shape path entries firstMember).1, (child_shape path entries secondMember).1] at shapes
    exact List.append_cancel_left shapes
  refine List.inj_on_of_nodup_map (nodup_keys_grouped path entries) firstMember secondMember ?_
  rw [NodeRow.key, NodeRow.key, paths, kinds, names]

end Children

/-! ### Nodes -/

section Nodes

variable (path : Text) (metric : AnalysisMetric) (limit : Nat) (entries : List Entry)

/-- The children that are returned by themselves. -/
def listed : List NodeRow :=
  (grouped (startOf path) entries).filter (isListed metric limit (grouped (startOf path) entries))

def otherKey : NodeKey := ([], ['其', '他'], .other)

/-- The key of the node that a child with the key is returned in. -/
def nodeKey (key : NodeKey) : NodeKey :=
  if key ∈ (listed path metric limit entries).map NodeRow.key then key else otherKey

/-- The key of the node that counts an entry. -/
def entryKey (entry : Entry) : NodeKey := nodeKey path metric limit entries (childKey (startOf path) entry)

theorem returnedKey_eq {child : NodeRow} (member : child ∈ grouped (startOf path) entries) :
    returnedKey (isListed metric limit (grouped (startOf path) entries) child) child =
      nodeKey path metric limit entries child.key := by
  rw [returnedKey, nodeKey]
  refine if_congr ?_ rfl rfl
  constructor
  · exact fun here => List.mem_map_of_mem (List.mem_filter.mpr ⟨member, here⟩)
  · intro found
    obtain ⟨other, inside, same⟩ := List.mem_map.mp found
    obtain ⟨otherMember, here⟩ := List.mem_filter.mp inside
    rw [← List.inj_on_of_nodup_map (nodup_keys_grouped path entries) otherMember member same]
    exact here

/-- The rows before they are ordered. -/
def merged : List NodeRow :=
  (groupBy (fun child : NodeRow => nodeKey path metric limit entries child.key)
    (grouped (startOf path) entries)).map merge

theorem childrenQuery_perm :
    (childrenQuery (startOf path) metric limit entries).Perm (merged path metric limit entries) := by
  have groups : groupBy (fun child => returnedKey (isListed metric limit (grouped (startOf path) entries) child) child)
      (grouped (startOf path) entries) =
      groupBy (fun child : NodeRow => nodeKey path metric limit entries child.key)
        (grouped (startOf path) entries) := by
    have keys := List.map_congr_left fun child (member : child ∈ grouped (startOf path) entries) =>
      returnedKey_eq path metric limit entries member
    rw [groupBy, groupBy, keys]
    refine List.map_congr_left fun wanted _ => ?_
    rw [List.filter_congr fun child member => by rw [returnedKey_eq path metric limit entries member]]
  rw [childrenQuery, groups]
  exact List.perm_insertionSort _ _

theorem keys_merged : (merged path metric limit entries).map NodeRow.key =
    ((grouped (startOf path) entries).map fun child => nodeKey path metric limit entries child.key).dedup := by
  rw [merged, List.map_map, ← Lib.keys_groupBy]
  rfl

theorem merged_contents {node : NodeRow} (member : node ∈ merged path metric limit entries) :
    node.bytes = (((filesBelow path entries).filter fun entry =>
        entryKey path metric limit entries entry = node.key).map Entry.logicalBytes).sum ∧
      node.fileCount = ((filesBelow path entries).filter fun entry =>
        entryKey path metric limit entries entry = node.key).length := by
  obtain ⟨group, inside, rfl⟩ := List.mem_map.mp member
  obtain ⟨-, rows⟩ := Lib.mem_groupBy.mp inside
  have sums := sums_grouped path entries fun key => nodeKey path metric limit entries key = group.1
  rw [← rows] at sums
  exact sums

theorem length_merged : (merged path metric limit entries).length ≤ limit + 1 := by
  have keys : (((grouped (startOf path) entries).map fun child =>
      nodeKey path metric limit entries child.key).dedup).length ≤
      (otherKey :: (listed path metric limit entries).map NodeRow.key).length := by
    refine (List.subperm_of_subset (List.nodup_dedup _) fun key member => ?_).length_le
    obtain ⟨child, -, rfl⟩ := List.mem_map.mp (List.mem_dedup.mp member)
    rw [nodeKey]
    split
    · next here => exact List.mem_cons_of_mem _ here
    · exact List.mem_cons_self
  have few : (listed path metric limit entries).length ≤ limit :=
    Lib.length_rowNumber_le (nodup_windowOrder path entries metric) limit
  rw [← keys_merged, List.length_map, List.length_cons, List.length_map] at keys
  omega

theorem nodup_merged : ((merged path metric limit entries).map NodeRow.key).Nodup := by
  rw [keys_merged]
  exact List.nodup_dedup _

/-- A node that is not the other one is a listed child. -/
theorem listed_of_merged {node : NodeRow} (member : node ∈ merged path metric limit entries)
    (single : node.kind ≠ .other) : node.key ∈ (listed path metric limit entries).map NodeRow.key := by
  have key : node.key ∈ (merged path metric limit entries).map NodeRow.key := List.mem_map_of_mem member
  rw [keys_merged] at key
  obtain ⟨child, -, here⟩ := List.mem_map.mp (List.mem_dedup.mp key)
  rw [nodeKey] at here
  split at here
  · next found => exact here ▸ found
  · exact absurd (congrArg (fun key : NodeKey => key.2.2) here).symm single

theorem other_merged : (merged path metric limit entries).countP (fun node => node.kind = .other) ≤ 1 := by
  have keyed : ∀ node ∈ (merged path metric limit entries).filter (fun node => node.kind = .other),
      node.key = otherKey := by
    intro node member
    obtain ⟨inside, other⟩ := List.mem_filter.mp member
    have key : node.key ∈ (merged path metric limit entries).map NodeRow.key := List.mem_map_of_mem inside
    rw [keys_merged] at key
    obtain ⟨child, -, here⟩ := List.mem_map.mp (List.mem_dedup.mp key)
    rw [nodeKey] at here
    split at here
    · next found =>
        obtain ⟨source, listedMember, same⟩ := List.mem_map.mp found
        have kind : source.kind = node.kind := congrArg (fun key : NodeKey => key.2.2) (same.trans here)
        rw [of_decide_eq_true other] at kind
        exact absurd kind (child_shape path entries (List.mem_filter.mp listedMember).1).2.1
    · exact here.symm
  rw [List.countP_eq_length_filter]
  have distinct := (nodup_merged path metric limit entries).sublist
    ((List.filter_sublist (p := fun node => node.kind = .other)).map NodeRow.key)
  rw [List.map_congr_left keyed, List.map_const', List.nodup_replicate] at distinct
  exact distinct

/-- A listed child is returned as it is. -/
theorem merged_listed {node : NodeRow} (member : node ∈ merged path metric limit entries)
    (single : node.kind ≠ .other) :
    node.bytes = (((filesBelow path entries).filter fun entry =>
        childKey (startOf path) entry = node.key).map Entry.logicalBytes).sum ∧
      node.fileCount = ((filesBelow path entries).filter fun entry =>
        childKey (startOf path) entry = node.key).length := by
  have found := listed_of_merged path metric limit entries member single
  have keys : ∀ entry : Entry, entryKey path metric limit entries entry = node.key ↔
      childKey (startOf path) entry = node.key := by
    intro entry
    rw [entryKey, nodeKey]
    split
    · rfl
    · next absent =>
        refine iff_of_false (fun same => ?_) fun same => ?_
        · exact single (congrArg (fun key : NodeKey => key.2.2) same).symm
        · exact absent (same ▸ found)
  have contents := merged_contents path metric limit entries member
  simp only [keys] at contents
  exact contents

def NodeRow.measure (row : NodeRow) : AnalysisMetric → Nat
  | .size => row.bytes
  | .count => row.fileCount

/-- No child behind the limit is larger than one that is listed. -/
theorem measure_le_of_listed {first second : NodeRow}
    (here : isListed metric limit (grouped (startOf path) entries) first)
    (beyond : ¬ isListed metric limit (grouped (startOf path) entries) second) :
    second.measure metric ≤ first.measure metric := by
  have less : rowNumber (windowOrder metric) (grouped (startOf path) entries) first <
      rowNumber (windowOrder metric) (grouped (startOf path) entries) second := by
    rw [isListed, decide_eq_true_eq] at here beyond
    omega
  have order := Lib.lt_of_rowNumber_lt less
  have metrics : metricOrder metric first ≤ metricOrder metric second := by
    rcases Prod.Lex.lt_iff.mp order with before | ⟨same, -⟩
    · exact before.le
    · exact same.le
  cases metric with
  | size =>
      rcases Prod.Lex.le_iff.mp metrics with before | ⟨same, -⟩
      · exact (OrderDual.toDual_lt_toDual.mp before).le
      · exact (OrderDual.toDual.injective same).ge
  | count =>
      rcases Prod.Lex.le_iff.mp metrics with before | ⟨same, -⟩
      · exact (OrderDual.toDual_lt_toDual.mp before).le
      · exact (OrderDual.toDual.injective same).ge

end Nodes

/-! ### Conservation -/

def AnalysisNode.key (node : AnalysisNode) : NodeKey := (node.path, node.name, node.kind)

def AnalysisNode.measure (node : AnalysisNode) : AnalysisMetric → Nat
  | .size => node.bytes
  | .count => node.fileCount

/-- The nodes of a path are few, and divide the files below it among them. -/
structure Conserves (scan : Scan) (path : Text) (metric : AnalysisMetric) (limit : Nat)
    (nodes : List AnalysisNode) : Prop where
  length : nodes.length ≤ limit + 1
  other : nodes.countP (fun node => node.kind = .other) ≤ 1
  bytes : (nodes.map AnalysisNode.bytes).sum = ((filesBelow path scan.entries).map Entry.logicalBytes).sum
  files : (nodes.map AnalysisNode.fileCount).sum = (filesBelow path scan.entries).length
  distinct : (nodes.map AnalysisNode.key).Nodup
  counted : ∀ entry ∈ filesBelow path scan.entries,
    entryKey path metric limit scan.entries entry ∈ nodes.map AnalysisNode.key
  contents : ∀ node ∈ nodes,
    node.bytes = (((filesBelow path scan.entries).filter fun entry =>
        entryKey path metric limit scan.entries entry = node.key).map Entry.logicalBytes).sum ∧
      node.fileCount = ((filesBelow path scan.entries).filter fun entry =>
        entryKey path metric limit scan.entries entry = node.key).length
  merged : ∀ node ∈ nodes, node.kind ≠ .other → ∀ child ∈ grouped (startOf path) scan.entries,
    ¬ isListed metric limit (grouped (startOf path) scan.entries) child → child.measure metric ≤ node.measure metric

section Conservation

variable (rfc3339 : Int → Option Text) (scan : Scan) (path : Text) (metric : AnalysisMetric) (limit : Nat)

theorem mem_children {node : AnalysisNode} : node ∈ children rfc3339 scan path metric limit ↔
    ∃ row ∈ merged path metric limit scan.entries, decodeNode rfc3339 row = node := by
  rw [children, List.mem_map]
  simp only [(childrenQuery_perm path metric limit scan.entries).mem_iff]

theorem sums_children : ((children rfc3339 scan path metric limit).map AnalysisNode.bytes).sum =
      ((filesBelow path scan.entries).map Entry.logicalBytes).sum ∧
    ((children rfc3339 scan path metric limit).map AnalysisNode.fileCount).sum =
      (filesBelow path scan.entries).length := by
  have perm := childrenQuery_perm path metric limit scan.entries
  obtain ⟨bytes, files⟩ := sums_grouped path scan.entries fun _ => true
  rw [List.filter_true, List.filter_true] at bytes files
  constructor
  · rw [children, List.map_map, ← bytes, (perm.map _).sum_eq, merged, List.map_map]
    exact Lib.sum_groupBy NodeRow.bytes _
  · rw [children, List.map_map, ← files, (perm.map _).sum_eq, merged, List.map_map]
    exact Lib.sum_groupBy NodeRow.fileCount _

theorem keys_children : ((children rfc3339 scan path metric limit).map AnalysisNode.key).Perm
    ((merged path metric limit scan.entries).map NodeRow.key) := by
  rw [children, List.map_map]
  exact (childrenQuery_perm path metric limit scan.entries).map NodeRow.key

theorem children_conserve : Conserves scan path metric limit (children rfc3339 scan path metric limit) where
  length := by
    rw [children, List.length_map, (childrenQuery_perm path metric limit scan.entries).length_eq]
    exact length_merged path metric limit scan.entries
  other := by
    rw [children, List.countP_map, (childrenQuery_perm path metric limit scan.entries).countP_eq]
    exact other_merged path metric limit scan.entries
  bytes := (sums_children rfc3339 scan path metric limit).1
  files := (sums_children rfc3339 scan path metric limit).2
  distinct := (keys_children rfc3339 scan path metric limit).nodup_iff.mpr
    (nodup_merged path metric limit scan.entries)
  counted := by
    intro entry member
    obtain ⟨inside, file, below⟩ := mem_filesBelow.mp member
    rw [(keys_children rfc3339 scan path metric limit).mem_iff, keys_merged, List.mem_dedup, entryKey]
    have within : entry ∈ scan.entries.filter (inScope (startOf path)) :=
      List.mem_filter.mpr ⟨inside, by rw [inScope_file file]; exact decide_eq_true below⟩
    have key : childKey (startOf path) entry ∈ (grouped (startOf path) scan.entries).map NodeRow.key := by
      rw [keys_grouped, List.mem_dedup]
      exact List.mem_map_of_mem within
    obtain ⟨child, childMember, same⟩ := List.mem_map.mp key
    exact List.mem_map.mpr ⟨child, childMember, by rw [same]⟩
  contents := by
    intro node member
    obtain ⟨row, inside, rfl⟩ := (mem_children rfc3339 scan path metric limit).mp member
    exact merged_contents path metric limit scan.entries inside
  merged := by
    intro node member single child childMember beyond
    obtain ⟨row, inside, rfl⟩ := (mem_children rfc3339 scan path metric limit).mp member
    obtain ⟨first, firstMember, same⟩ :=
      List.mem_map.mp (listed_of_merged path metric limit scan.entries inside single)
    obtain ⟨firstChild, here⟩ := List.mem_filter.mp firstMember
    obtain ⟨firstBytes, firstFiles⟩ := child_contents path scan.entries firstChild
    obtain ⟨bytes, files⟩ := merged_listed path metric limit scan.entries inside single
    rw [same] at firstBytes firstFiles
    have smaller := measure_le_of_listed path metric limit scan.entries here beyond
    cases metric with
    | size => exact smaller.trans (firstBytes.trans bytes.symm).le
    | count => exact smaller.trans (firstFiles.trans files.symm).le

end Conservation

/-! ### Paths of requests -/

/-- A path that `validate` returns. -/
def ValidPath (path : Text) : Prop := trimEnd path = path ∧ refusedPath path = false

theorem trimEnd_trimEnd (path : Text) : trimEnd (trimEnd path) = trimEnd path :=
  List.rdropWhile_idempotent _ path

theorem validate_eq_ok {query : AnalysisTreeQuery} {path : Text} {limit : Nat} :
    query.validate = .ok (path, limit) ↔ trimEnd query.path = path ∧ refusedPath path = false ∧
      query.limit.getD 120 = limit ∧ 1 ≤ limit ∧ limit ≤ 500 := by
  rw [AnalysisTreeQuery.validate]
  dsimp only
  constructor
  · intro accepted
    split at accepted
    · cases accepted
    · next kept =>
        split at accepted
        · next bounds =>
            cases accepted
            exact ⟨rfl, Bool.eq_false_iff.mpr kept, rfl, bounds⟩
        · cases accepted
  · rintro ⟨rfl, kept, rfl, bounds⟩
    rw [if_neg (by rw [kept]; exact Bool.false_ne_true), if_pos bounds]

theorem validPath_of_validate {query : AnalysisTreeQuery} {path : Text} {limit : Nat}
    (valid : query.validate = .ok (path, limit)) : ValidPath path := by
  obtain ⟨rfl, kept, -⟩ := validate_eq_ok.mp valid
  exact ⟨trimEnd_trimEnd _, kept⟩

theorem trimEnd_startOf {path : Text} (trimmed : trimEnd path = path) : trimEnd (startOf path) = path := by
  rw [startOf]
  split
  · next empty => rw [empty]; rfl
  · exact (List.rdropWhile_concat_pos (fun character => decide (character = '/')) path '/' rfl).trans trimmed

theorem length_startOf (path : Text) : path.length ≤ (startOf path).length := by
  rw [startOf]
  split
  · next empty => rw [empty]
  · rw [List.length_append]
    exact Nat.le_add_right _ _

section ChildPaths

variable {path name : Text} (filled : name ≠ []) (part : '/' ∉ name)

include filled

theorem startOf_child : startOf (startOf path ++ name) = startOf path ++ name ++ ['/'] :=
  if_neg fun empty => filled (List.append_eq_nil_iff.mp empty).2

include part

theorem trimEnd_child : trimEnd (startOf path ++ name) = startOf path ++ name := by
  rw [trimEnd, List.rdropWhile_eq_self_iff]
  intro nonempty slash
  refine part ?_
  have last : (startOf path ++ name).getLast nonempty = '/' := of_decide_eq_true slash
  rw [List.getLast_append_of_ne_nil _ filled] at last
  rw [← last]
  exact List.getLast_mem filled

end ChildPaths

/-- The first part of a text that goes on behind it. -/
theorem firstPart_eq_iff {text name : Text} (part : '/' ∉ name) :
    firstPart text = name ∧ '/' ∈ text ↔ name ++ ['/'] <+: text := by
  constructor
  · rintro ⟨rfl, slash⟩
    cases rest : text.dropWhile (· ≠ '/') with
    | nil =>
        have all := List.dropWhile_eq_nil_iff.mp rest '/' slash
        exact absurd rfl (of_decide_eq_true all)
    | cons first rest' =>
        have stop : first = '/' := by
          have head := List.head?_dropWhile_not (· ≠ '/') text
          rw [rest] at head
          simpa using head
        refine ⟨rest', ?_⟩
        have joined := List.takeWhile_append_dropWhile (p := (· ≠ '/')) (l := text)
        rw [rest, stop] at joined
        rw [firstPart, List.append_assoc]
        exact joined
  · rintro ⟨rest, rfl⟩
    have whole : ∀ character ∈ name, decide (character ≠ '/') = true := by
      intro character member
      exact decide_eq_true fun same => part (same ▸ member)
    refine ⟨?_, by simp⟩
    rw [firstPart, List.append_assoc, List.takeWhile_append_of_pos whole]
    simp

/-- The files of a directory child are those with its path and a separator in front. -/
theorem childKey_eq_iff {path name : Text} (part : '/' ∉ name) {entry : Entry} (file : entry.isFile = true)
    (below : Below path entry) :
    childKey (startOf path) entry = (startOf path ++ name, name, .directory) ↔
      startOf path ++ name ++ ['/'] <+: entry.entryPath := by
  obtain ⟨⟨rest, joined⟩, -⟩ := below
  have behind : suffix (startOf path) entry = rest := by rw [suffix, ← joined, List.drop_left]
  have single : entry.isDirectory = false := by
    rw [Entry.isFile, decide_eq_true_eq] at file
    rw [Entry.isDirectory, file]
    decide
  rw [childKey, behind, single, ← joined, List.append_assoc, List.prefix_append_right_inj, ← firstPart_eq_iff part]
  constructor
  · intro same
    have name := congrArg (fun key : NodeKey => key.2.1) same
    have kind := congrArg (fun key : NodeKey => key.2.2) same
    dsimp only at name kind
    split at kind
    · next slash => exact ⟨name, slash.resolve_right Bool.false_ne_true⟩
    · cases kind
  · rintro ⟨rfl, slash⟩
    rw [if_pos (.inl slash)]

/-! ### Descent -/

section Descent

variable (rfc3339 : Int → Option Text) (scan : Scan) (metric : AnalysisMetric) (limit : Nat)

/-- `get_tree` on the path of a listed directory answers for a deeper path, with its bytes and files. -/
def Descends (path : Text) : Prop :=
  ∀ node ∈ children rfc3339 scan path metric limit, node.kind = .directory →
    ∀ query : AnalysisTreeQuery, query.path = node.path → 1 ≤ query.limit.getD 120 → query.limit.getD 120 ≤ 500 →
      ∃ analysis, getTree rfc3339 (.ok ()) scan query = .ok analysis ∧ path.length < analysis.path.length ∧
        analysis.totalBytes = node.bytes ∧ analysis.fileCount = node.fileCount

/-- A directory whose path can be asked for and is not itself, with a separator, the path of a file. -/
structure PlainChild (child : NodeRow) : Prop where
  named : child.name ≠ []
  accepted : refusedPath child.path = false
  unended : ∀ entry ∈ scan.entries, entry.isFile → entry.entryPath ≠ child.path ++ ['/']

/-- The directories among the first `limit` children are plain. -/
def PlainChildren (path : Text) : Prop :=
  ∀ child ∈ listed path metric limit scan.entries, child.kind = .directory → PlainChild scan child

theorem getTree_eq {query : AnalysisTreeQuery} {path : Text} {limit : Nat}
    (valid : query.validate = .ok (path, limit)) :
    getTree rfc3339 (.ok ()) scan query = .ok ⟨path, ((filesBelow path scan.entries).map Entry.logicalBytes).sum,
      (filesBelow path scan.entries).length,
      ((children rfc3339 scan path query.metric limit).map AnalysisNode.directoryCount).sum,
      children rfc3339 scan path query.metric limit⟩ := by
  obtain ⟨bytes, files⟩ := sums_children rfc3339 scan path query.metric limit
  rw [getTree, valid, ← bytes, ← files]
  rfl

theorem below_of_child {path name : Text} {entry : Entry}
    (above : startOf path ++ name ++ ['/'] <+: entry.entryPath) : Below path entry := by
  refine ⟨((List.prefix_append _ _).trans (List.prefix_append _ _)).trans above, fun same => ?_⟩
  have long := above.length_le
  rw [same, List.length_append, List.length_append, List.length_singleton] at long
  omega

/-- The files below a named child are its files but those whose path ends behind it. -/
theorem filesBelow_child {path : Text} {child : NodeRow} (member : child ∈ grouped (startOf path) scan.entries)
    (directory : child.kind = .directory) (named : child.name ≠ []) :
    filesBelow child.path scan.entries =
      ((filesBelow path scan.entries).filter fun entry => childKey (startOf path) entry = child.key).filter
        fun entry => entry.entryPath ≠ child.path ++ ['/'] := by
  obtain ⟨joined, -, part⟩ := child_shape path scan.entries member
  have key : child.key = (startOf path ++ child.name, child.name, .directory) := by
    rw [NodeRow.key, joined, directory]
  rw [filesBelow, filesBelow, List.filter_filter, List.filter_filter]
  refine List.filter_congr fun entry _ => ?_
  cases file : entry.isFile with
  | false => simp
  | true =>
      have starts : startOf child.path = child.path ++ ['/'] := by rw [joined, startOf_child named]
      rw [Bool.true_and, Bool.true_and, Bool.eq_iff_iff, Bool.and_eq_true, Bool.and_eq_true, decide_eq_true_eq,
        decide_eq_true_eq, decide_eq_true_eq, decide_eq_true_eq, key, Below, starts, joined]
      constructor
      · rintro ⟨above, other⟩
        have below := below_of_child above
        exact ⟨⟨other, (childKey_eq_iff part file below).mpr above⟩, below⟩
      · rintro ⟨⟨other, keyed⟩, below⟩
        exact ⟨(childKey_eq_iff part file below).mp keyed, other⟩

variable {scan metric limit} {path : Text}

/-- The listed directory that a returned directory stands for. -/
theorem listed_of_node {node : AnalysisNode} (member : node ∈ children rfc3339 scan path metric limit)
    (directory : node.kind = .directory) :
    ∃ child ∈ listed path metric limit scan.entries, child.kind = .directory ∧ child.path = node.path ∧
      child.bytes = node.bytes ∧ child.fileCount = node.fileCount ∧ child.key = node.key := by
  obtain ⟨row, inside, rfl⟩ := (mem_children rfc3339 scan path metric limit).mp member
  have single : row.kind ≠ .other := by
    rw [show row.kind = .directory from directory]
    exact NodeKind.noConfusion
  obtain ⟨child, here, same⟩ := List.mem_map.mp (listed_of_merged path metric limit scan.entries inside single)
  obtain ⟨childBytes, childFiles⟩ := child_contents path scan.entries (List.mem_filter.mp here).1
  obtain ⟨bytes, files⟩ := merged_listed path metric limit scan.entries inside single
  rw [same] at childBytes childFiles
  refine ⟨child, here, ?_, congrArg Prod.fst same, childBytes.trans bytes.symm, childFiles.trans files.symm, same⟩
  exact (congrArg (fun key : NodeKey => key.2.2) same).trans directory

theorem node_files {node : AnalysisNode} (member : node ∈ children rfc3339 scan path metric limit)
    (single : node.kind ≠ .other) :
    node.fileCount = ((filesBelow path scan.entries).filter fun entry =>
      childKey (startOf path) entry = node.key).length := by
  obtain ⟨row, inside, rfl⟩ := (mem_children rfc3339 scan path metric limit).mp member
  exact (merged_listed path metric limit scan.entries inside single).2

/-- A listed directory is returned. -/
theorem node_of_listed {child : NodeRow} (here : child ∈ listed path metric limit scan.entries) :
    ∃ node ∈ children rfc3339 scan path metric limit, node.key = child.key := by
  have own : nodeKey path metric limit scan.entries child.key = child.key := if_pos (List.mem_map_of_mem here)
  have key : child.key ∈ (children rfc3339 scan path metric limit).map AnalysisNode.key := by
    rw [(keys_children rfc3339 scan path metric limit).mem_iff, keys_merged, List.mem_dedup]
    exact List.mem_map.mpr ⟨child, (List.mem_filter.mp here).1, own⟩
  exact List.mem_map.mp key

/-- All files of a plain directory are below its path. -/
theorem filesBelow_plain {child : NodeRow} (member : child ∈ grouped (startOf path) scan.entries)
    (directory : child.kind = .directory) (plain : PlainChild scan child) :
    filesBelow child.path scan.entries =
      (filesBelow path scan.entries).filter fun entry => childKey (startOf path) entry = child.key := by
  rw [filesBelow_child scan member directory plain.named]
  refine List.filter_eq_self.mpr fun entry inside => ?_
  obtain ⟨found, file, -⟩ := mem_filesBelow.mp (List.mem_filter.mp inside).1
  exact decide_eq_true (plain.unended entry found file)

theorem validate_child {child : NodeRow} (member : child ∈ grouped (startOf path) scan.entries)
    (plain : PlainChild scan child) {q : AnalysisTreeQuery} (asked : q.path = child.path)
    (least : 1 ≤ q.limit.getD 120) (most : q.limit.getD 120 ≤ 500) :
    q.validate = .ok (child.path, q.limit.getD 120) := by
  obtain ⟨joined, -, part⟩ := child_shape path scan.entries member
  refine validate_eq_ok.mpr ⟨?_, plain.accepted, rfl, least, most⟩
  rw [asked, joined, trimEnd_child plain.named part]

theorem length_child {child : NodeRow} (member : child ∈ grouped (startOf path) scan.entries)
    (named : child.name ≠ []) : path.length < child.path.length := by
  rw [(child_shape path scan.entries member).1, List.length_append]
  have filled := List.length_pos_iff.mpr named
  have start := length_startOf path
  omega

theorem descends_of_plain (plain : PlainChildren scan metric limit path) : Descends rfc3339 scan metric limit path := by
  intro node member directory query asked least most
  obtain ⟨child, here, kind, samePath, bytes, files, -⟩ := listed_of_node rfc3339 member directory
  have inside := (List.mem_filter.mp here).1
  have plainChild := plain child here kind
  have valid := validate_child inside plainChild (asked.trans samePath.symm) least most
  obtain ⟨childBytes, childFiles⟩ := child_contents path scan.entries inside
  refine ⟨_, getTree_eq rfc3339 scan valid, length_child inside plainChild.named, ?_, ?_⟩
  · rw [filesBelow_plain inside kind plainChild, ← childBytes, bytes]
  · rw [filesBelow_plain inside kind plainChild, ← childFiles, files]

theorem plain_of_descends (valid : ValidPath path) (descends : Descends rfc3339 scan metric limit path) :
    PlainChildren scan metric limit path := by
  intro child here directory
  have inside := (List.mem_filter.mp here).1
  obtain ⟨joined, -, part⟩ := child_shape path scan.entries inside
  obtain ⟨node, member, same⟩ := node_of_listed rfc3339 here
  have kind : node.kind = .directory := (congrArg (fun key : NodeKey => key.2.2) same).trans directory
  have samePath : node.path = child.path := congrArg Prod.fst same
  obtain ⟨analysis, answered, deeper, -, files⟩ :=
    descends node member kind ⟨node.path, metric, none⟩ rfl (show 1 ≤ 120 by decide) (show 120 ≤ 500 by decide)
  cases validated : AnalysisTreeQuery.validate ⟨node.path, metric, none⟩ with
  | error error =>
      rw [getTree, validated] at answered
      cases answered
  | ok request =>
      obtain ⟨target, targetLimit⟩ := request
      rw [getTree_eq rfc3339 scan validated] at answered
      cases answered
      obtain ⟨trimmed, accepted, -⟩ := validate_eq_ok.mp validated
      dsimp only at trimmed deeper files
      have named : child.name ≠ [] := by
        intro unnamed
        rw [samePath, joined, unnamed, List.append_nil, trimEnd_startOf valid.1] at trimmed
        rw [trimmed] at deeper
        exact Nat.lt_irrefl _ deeper
      rw [samePath, joined, trimEnd_child named part, ← joined] at trimmed
      subst trimmed
      refine ⟨named, accepted, fun entry found file ended => ?_⟩
      rw [filesBelow_child scan inside directory named, node_files rfc3339 member (by rw [kind]; exact NodeKind.noConfusion),
        same, List.length_filter_eq_length_iff] at files
      have key : child.key = (startOf path ++ child.name, child.name, .directory) := by
        rw [NodeRow.key, joined, directory]
      have above : startOf path ++ child.name ++ ['/'] <+: entry.entryPath :=
        ⟨[], by rw [List.append_nil, ended, joined]⟩
      have below := below_of_child above
      have counted : entry ∈ (filesBelow path scan.entries).filter fun entry =>
          childKey (startOf path) entry = child.key := by
        refine List.mem_filter.mpr ⟨mem_filesBelow.mpr ⟨found, file, below⟩, decide_eq_true ?_⟩
        rw [key]
        exact (childKey_eq_iff part file below).mpr above
      exact of_decide_eq_true (files entry counted) ended

/-- Repeated descent comes to a file node or the other node that counts the entry. -/
inductive Reached (rfc3339 : Int → Option Text) (scan : Scan) (metric : AnalysisMetric) (limit : Nat)
    (entry : Entry) : Text → Prop where
  | shown {path : Text} {node : AnalysisNode} (member : node ∈ children rfc3339 scan path metric limit)
      (last : node.kind ≠ .directory) (counted : entryKey path metric limit scan.entries entry = node.key) :
      Reached rfc3339 scan metric limit entry path
  | descended {path : Text} {node : AnalysisNode} {analysis : StorageAnalysis}
      (member : node ∈ children rfc3339 scan path metric limit) (directory : node.kind = .directory)
      (counted : entryKey path metric limit scan.entries entry = node.key)
      (answered : getTree rfc3339 (.ok ()) scan ⟨node.path, metric, some limit⟩ = .ok analysis)
      (further : Reached rfc3339 scan metric limit entry analysis.path) :
      Reached rfc3339 scan metric limit entry path

theorem length_below {path : Text} {entry : Entry} (below : Below path entry) :
    path.length < entry.entryPath.length := by
  refine (length_startOf path).trans_lt (Nat.lt_of_le_of_ne below.1.length_le fun same => ?_)
  exact below.2 (below.1.eq_of_length same).symm

/-- Where all listed directories are plain, each step goes deeper, and every file is reached. -/
theorem reached_of_plain (least : 1 ≤ limit) (most : limit ≤ 500)
    (plain : ∀ path, ValidPath path → PlainChildren scan metric limit path) {entry : Entry} (depth : Nat)
    (valid : ValidPath path) (member : entry ∈ filesBelow path scan.entries)
    (bounded : entry.entryPath.length - path.length ≤ depth) : Reached rfc3339 scan metric limit entry path := by
  induction depth generalizing path with
  | zero =>
      have inner := length_below (mem_filesBelow.mp member).2.2
      omega
  | succ depth ih =>
      have counted := (children_conserve rfc3339 scan path metric limit).counted entry member
      obtain ⟨node, inside, same⟩ := List.mem_map.mp counted
      by_cases directory : node.kind = .directory
      · obtain ⟨child, here, kind, samePath, -, -, key⟩ := listed_of_node rfc3339 inside directory
        have childMember := (List.mem_filter.mp here).1
        have plainChild := plain path valid child here kind
        have request := validate_child childMember plainChild (q := ⟨node.path, metric, some limit⟩)
          samePath.symm least most
        have own : childKey (startOf path) entry = child.key := by
          rw [← key, entryKey, nodeKey] at same
          split at same
          · exact same.symm
          · have impossible : child.kind = .other := congrArg (fun key : NodeKey => key.2.2) same
            rw [kind] at impossible
            cases impossible
        have deeper : entry ∈ filesBelow child.path scan.entries := by
          rw [filesBelow_plain childMember kind plainChild]
          exact List.mem_filter.mpr ⟨member, decide_eq_true own⟩
        refine .descended inside directory same.symm (getTree_eq rfc3339 scan request) (ih ?_ deeper ?_)
        · exact validPath_of_validate request
        · have longer := length_child childMember plainChild.named
          have inner := length_below (mem_filesBelow.mp deeper).2.2
          dsimp only
          omega
      · exact .shown inside directory same.symm

end Descent

/-- For every table, and every request that is accepted: the children of its path conserve the files
below it; descending into the listed directories works exactly where they are plain; and where they are
plain for every path, repeated descent reaches every file. -/
theorem storage_analysis_conserves (rfc3339 : Int → Option Text) (scan : Scan) (query : AnalysisTreeQuery)
    (path : Text) (limit : Nat) (valid : query.validate = .ok (path, limit)) :
    Conserves scan path query.metric limit (children rfc3339 scan path query.metric limit) ∧
      (Descends rfc3339 scan query.metric limit path ↔ PlainChildren scan query.metric limit path) ∧
      ((∀ other, ValidPath other → PlainChildren scan query.metric limit other) →
        ∀ entry ∈ filesBelow path scan.entries, Reached rfc3339 scan query.metric limit entry path) := by
  have validPath := validPath_of_validate valid
  obtain ⟨-, -, -, least, most⟩ := validate_eq_ok.mp valid
  refine ⟨children_conserve rfc3339 scan path query.metric limit, ?_, ?_⟩
  · exact ⟨plain_of_descends rfc3339 validPath, descends_of_plain rfc3339⟩
  · exact fun plain entry member =>
      reached_of_plain rfc3339 least most plain _ validPath member (Nat.le_refl _)

instance (scan : Scan) (child : NodeRow) : Decidable (PlainChild scan child) :=
  decidable_of_iff (child.name ≠ [] ∧ refusedPath child.path = false ∧
      ∀ entry ∈ scan.entries, entry.isFile → entry.entryPath ≠ child.path ++ ['/'])
    ⟨fun ⟨named, accepted, unended⟩ => ⟨named, accepted, unended⟩,
      fun plain => ⟨plain.named, plain.accepted, plain.unended⟩⟩

/-- A directory is listed below a start of an entry, so plainness for every path is plainness for the
starts of the entries. -/
theorem plainChildren_of_starts {scan : Scan} {metric : AnalysisMetric} {limit : Nat}
    (plain : ∀ entry ∈ scan.entries, ∀ start ∈ entry.entryPath.inits, (start = [] ∨ start.getLast? = some '/') →
      ∀ child ∈ grouped start scan.entries, child.kind = .directory → PlainChild scan child) (path : Text) :
    PlainChildren scan metric limit path := by
  intro child here directory
  have inside := (List.mem_filter.mp here).1
  obtain ⟨group, grouped_, -⟩ := List.mem_map.mp inside
  obtain ⟨entry, found, -⟩ := List.mem_map.mp (Lib.mem_groupBy.mp grouped_).1
  obtain ⟨member, within⟩ := List.mem_filter.mp found
  have starts : startOf path <+: entry.entryPath := by
    simp only [inScope, Bool.and_eq_true, List.isPrefixOf_iff_prefix] at within
    exact within.1.1.1
  refine plain entry member (startOf path) ((List.mem_inits _ _).mpr starts) ?_ child inside directory
  unfold startOf
  split
  · exact Or.inl rfl
  · exact Or.inr List.getLast?_concat

/-- Object keys `d/e/f` and `d/g`. -/
def plainScan : Scan where
  table := .single
    [⟨['d', '/', 'e', '/', 'f'], [], 5, ['s', '3'], false, false, fileType, true, ['s', '3'], none⟩,
      ⟨['d', '/', 'g'], [], 7, ['s', '3'], false, false, fileType, true, ['s', '3'], none⟩]
  observed := true

/-- From the root of the scan, descent through `d` and `d/e` reaches both files. -/
theorem storage_analysis_conserves_plain :
    Conserves plainScan [] .size 120 (children (fun _ => none) plainScan [] .size 120) ∧
      Descends (fun _ => none) plainScan .size 120 [] ∧
      (filesBelow [] plainScan.entries).length = 2 ∧
      ∀ entry ∈ filesBelow [] plainScan.entries, Reached (fun _ => none) plainScan .size 120 entry [] := by
  have plain : ∀ path, PlainChildren plainScan .size 120 path := plainChildren_of_starts (by decide)
  obtain ⟨conserved, descends, reached⟩ :=
    storage_analysis_conserves (fun _ => none) plainScan ⟨[], .size, none⟩ [] 120 (by decide)
  exact ⟨conserved, descends.mpr (plain []), by decide, reached fun path _ => plain path⟩

/-- Object keys `a//b` and `a/c`. -/
def keysScan : Scan where
  table := .single
    [⟨['a', '/', '/', 'b'], [], 5, ['s', '3'], false, false, fileType, true, ['s', '3'], none⟩,
      ⟨['a', '/', 'c'], [], 7, ['s', '3'], false, false, fileType, true, ['s', '3'], none⟩]
  observed := true

/-- Asking for the directory `a/`, which has no name, shows all of `a` again. -/
theorem getTree_unnamed : (getTree (fun _ => none) (.ok ()) keysScan ⟨['a', '/'], .size, some 120⟩).toOption.map
    (fun analysis => (analysis.path, analysis.totalBytes, analysis.fileCount)) = some (['a'], 12, 2) := by decide

/-- Below `a` there is a directory `a/` of five bytes, and the answer for its path has twelve. -/
theorem unnamed_directory_repeats :
    AnalysisTreeQuery.validate ⟨['a'], .size, none⟩ = .ok (['a'], 120) ∧
      ∃ node ∈ children (fun _ => none) keysScan ['a'] .size 120, node.kind = .directory ∧ node.bytes = 5 ∧
        ∀ analysis, getTree (fun _ => none) (.ok ()) keysScan ⟨node.path, .size, some 120⟩ = .ok analysis →
          analysis.totalBytes = 12 := by
  have found : ∃ node ∈ children (fun _ => none) keysScan ['a'] .size 120,
      node.kind = .directory ∧ node.bytes = 5 ∧ node.path = ['a', '/'] := by decide
  obtain ⟨node, member, directory, bytes, asked⟩ := found
  refine ⟨by decide, node, member, directory, bytes, fun analysis answered => ?_⟩
  have shown := getTree_unnamed
  rw [← asked, answered] at shown
  exact congrArg (fun answer : Text × Nat × Nat => answer.2.1) (Option.some.inj shown)

end Terrasync.Web.Analysis
