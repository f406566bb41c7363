import Mathlib.Algebra.GroupWithZero.Nat
import Terrasync.Lib.Forest
import Terrasync.Observation

/-! Package selection of a walk. Below the first directory with a date in its name that the
filter expressions emit, only directories a fixed number of levels further down are
delivered, each as one archive. -/

set_option autoImplicit false

namespace Terrasync.Scan

inductive DateFormat where
  | dashed
  | compact
  | short
deriving DecidableEq, Repr

/-- The slice of this many bytes, if it ends between two characters. -/
def takeBytes : Nat → List Char → Option (List Char)
  | 0, _ => some []
  | _ + 1, [] => none
  | count + 1, first :: rest =>
      if first.utf8Size ≤ count + 1 then
        (takeBytes (count + 1 - first.utf8Size) rest).map (first :: ·)
      else none

/-- `date_name`, over the calendar library's parser of one format. -/
def dateName (parseFromStr : DateFormat → List Char → Bool) (name : List Char) : Bool :=
  name.tails.any fun rest =>
    [(10, DateFormat.dashed), (8, .compact), (6, .short)].any fun (length, format) =>
      (takeBytes length rest).any (parseFromStr format)

structure TraversalCandidate (Metadata : Type) where
  path : RelativePath
  name : List Char
  kind : EntryKind
  size : Option Nat
  modified : Option Int
  metadata : Metadata
deriving DecidableEq, Repr

structure TraversalDecision where
  emit : Bool
  descend : Bool
  filterChildren : Bool
deriving DecidableEq, Repr

/-- The options of a walk that packaging reads. -/
structure WalkOptions (Expression : Type) where
  matchExpressions : Option Expression
  excludeExpressions : Option Expression
  depth : Option Nat
  packaged : Bool
  packageDepth : Nat
deriving DecidableEq, Repr

/-- The path components of a candidate. -/
def parts (value : RelativePath) : List (List Char) := (value.splitOn '/').filter (· ≠ [])

structure PackageFilter (Metadata : Type) where
  dsl : TraversalCandidate Metadata → TraversalDecision
  enabled : Bool
  extraDepth : Nat
  maximum : Option Nat

namespace PackageFilter

def new {Metadata Expression : Type}
    (dslTraversalFilter : Option Expression → Option Expression →
      TraversalCandidate Metadata → TraversalDecision)
    (options : WalkOptions Expression) : PackageFilter Metadata where
  dsl := dslTraversalFilter options.matchExpressions options.excludeExpressions
  enabled := options.packaged && options.matchExpressions.isSome
  extraDepth := options.packageDepth
  maximum := options.depth.filter (0 < ·)

section

variable {Metadata : Type} [Inhabited Metadata] (parseFromStr : DateFormat → List Char → Bool)
  (filter : PackageFilter Metadata)

/-- What the path alone says about a directory. -/
def bareCandidate (components : List (List Char)) (name : List Char) :
    TraversalCandidate Metadata where
  path := ['/'].intercalate components
  name
  kind := .directory
  size := none
  modified := none
  metadata := default

def selects (above : List (List Char)) (name : List Char) : Bool :=
  dateName parseFromStr name && (filter.dsl (bareCandidate (above ++ [name]) name)).emit

/-- The depth of the first selected directory among the remaining ones. -/
def selectFrom (above : List (List Char)) : List (List Char) → Option Nat
  | [] => none
  | name :: rest =>
      if filter.selects parseFromStr above name then some (above.length + 1)
      else selectFrom (above ++ [name]) rest

def targetDepth (value : RelativePath) (isDir : Bool) : Option Nat :=
  if filter.enabled then
    (filter.selectFrom parseFromStr []
      ((parts value).take ((parts value).length - (if isDir then 0 else 1)))).map
        fun selected => (selected + filter.extraDepth) % 2 ^ 64
  else none

def packagedPath (value : RelativePath) : Bool :=
  filter.targetDepth parseFromStr value true = some (parts value).length

def decide (candidate : TraversalCandidate Metadata) : TraversalDecision :=
  let decision := filter.dsl candidate
  let isDir : Bool := candidate.kind = .directory
  let decision :=
    match filter.targetDepth parseFromStr candidate.path isDir with
    | some target =>
        if filter.maximum.any (target > ·) then
          { decision with emit := false, descend := false }
        else if (parts candidate.path).length = target ∧ isDir then
          { decision with descend := false }
        else { decision with emit := false }
    | none => decision
  { decision with filterChildren := true }

end

end PackageFilter

/-- One component of a path. -/
structure EntryName where
  chars : List Char
  nonempty : chars ≠ []
  noSeparator : '/' ∉ chars
deriving DecidableEq, Repr

structure DirectoryObservation (Metadata : Type) where
  size : Option Nat
  modified : Option Int
  metadata : Metadata
deriving DecidableEq, Repr

structure FileObservation (Metadata : Type) extends DirectoryObservation Metadata where
  kind : EntryKind
  notDirectory : kind ≠ .directory

/-- The directory tree below the root of a walk. -/
structure DirectoryTree (Metadata : Type) where
  forest : Lib.Forest EntryName (FileObservation Metadata) (DirectoryObservation Metadata)
  distinct : forest.Distinct

abbrev TreeNode (Metadata : Type) := FileObservation Metadata ⊕ DirectoryObservation Metadata

def relativePath (path : List EntryName) : RelativePath :=
  ['/'].intercalate (path.map EntryName.chars)

def TreeNode.kind {Metadata : Type} : TreeNode Metadata → EntryKind
  | .inl file => file.kind
  | .inr _ => .directory

def TreeNode.observation {Metadata : Type} : TreeNode Metadata → DirectoryObservation Metadata
  | .inl file => file.toDirectoryObservation
  | .inr directory => directory

def candidateOf {Metadata : Type} (path : List EntryName) (node : TreeNode Metadata) :
    TraversalCandidate Metadata where
  path := relativePath path
  name := (path.map EntryName.chars).getLastD []
  kind := node.kind
  size := node.observation.size
  modified := node.observation.modified
  metadata := node.observation.metadata

inductive WalkMessage (Metadata : Type) where
  | scanned (path : List EntryName) (node : TreeNode Metadata)
  | packaged (path : List EntryName) (node : TreeNode Metadata)

namespace DirectoryTree

variable {Metadata : Type} [Inhabited Metadata] (parseFromStr : DateFormat → List Char → Bool)
  (filter : PackageFilter Metadata) (tree : DirectoryTree Metadata)

/-- What the traversal hands over under the filter. -/
def traversal : List (List EntryName × TreeNode Metadata) :=
  tree.forest.walk
    (fun path node => (filter.decide parseFromStr (candidateOf path node)).emit)
    (fun path node => (filter.decide parseFromStr (candidateOf path node)).descend) []

def deliver (entry : List EntryName × TreeNode Metadata) : WalkMessage Metadata :=
  if entry.2.isRight && filter.packagedPath parseFromStr (relativePath entry.1) then
    .packaged entry.1 entry.2
  else .scanned entry.1 entry.2

/-- `walkdir` from the root. -/
def walkdir : List (WalkMessage Metadata) :=
  (tree.traversal parseFromStr filter).map (deliver parseFromStr filter)

/-- The manifest of `pack_directory`: an unfiltered walk of the directory. -/
def packDirectory (directory : List EntryName) : List (List EntryName) :=
  ((tree.forest.childrenAt directory).walk (fun _ _ => true) (fun _ _ => true) directory).map
    Prod.fst

/-- The message carries the file, by itself or in an archive. -/
def carries (file : List EntryName) : WalkMessage Metadata → Bool
  | .scanned path _ => path = file
  | .packaged path _ => file ∈ tree.packDirectory path

/-- How often a walk carries a file. -/
def coverage (file : List EntryName) : Nat :=
  (tree.walkdir parseFromStr filter).countP (tree.carries file)

end DirectoryTree

end Terrasync.Scan
