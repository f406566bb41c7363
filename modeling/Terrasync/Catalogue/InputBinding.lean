import Mathlib.Data.Char
import Mathlib.Data.List.Lex
import Mathlib.Data.Prod.Lex
import Mathlib.Order.Compare
import Terrasync.Event
import Terrasync.Lib.BinarySearch
import Terrasync.Lib.Replacing

/-! `bind_input_order`: classified keys are bound to the observations of the batch, in the
order of the input. Observations keep what keys are made of; all that is compared as a whole
besides is `Facts`. -/

set_option autoImplicit false

namespace Terrasync.Catalogue.InputBinding

open Lib (binarySearchBy)

inductive EntryChange where
  | new
  | changed (kind : ChangeKind)
deriving DecidableEq, Repr

structure VersionRecord (Facts : Type) where
  versionId : Option (List Char)
  facts : Facts
deriving DecidableEq, Repr

structure ObservedEntry (Facts : Type) where
  path : RelativePath
  kind : EntryKind
  history : Option (List (VersionRecord Facts))
  facts : Facts
deriving DecidableEq, Repr

/-- Path and version, in the order of the classification. -/
abbrev Key := RelativePath ×ₗ List Char

structure CatalogueDifference where
  relativePath : RelativePath
  versionId : List Char
  kind : EntryChange
deriving DecidableEq, Repr

def CatalogueDifference.key (difference : CatalogueDifference) : Key :=
  toLex (difference.relativePath, difference.versionId)

/-- `ObservationProjectionMismatch`, with its field. -/
inductive ProjectionMismatch where
  | conflictingClassifications
  | conflictingObservations
  | classificationKey
deriving DecidableEq, Repr

section Binding

variable {Facts : Type}

structure ObservedItem (Facts : Type) where
  entry : ObservedEntry Facts
  versionIndex : Option Nat
deriving DecidableEq, Repr

namespace ObservedItem

def all (entry : ObservedEntry Facts) : List (ObservedItem Facts) :=
  match entry.history with
  | none => [⟨entry, none⟩]
  | some records => (List.range records.length).map fun index => ⟨entry, some index⟩

def version (item : ObservedItem Facts) : Option (VersionRecord Facts) :=
  item.versionIndex.bind fun index => item.entry.history.bind fun records => records[index]?

def versionId (item : ObservedItem Facts) : List Char :=
  match item.version with
  | some record => record.versionId.getD ['n', 'u', 'l', 'l']
  | none => []

def pathKey (item : ObservedItem Facts) : RelativePath :=
  if item.version.isSome ∧ item.entry.kind = .directory then item.entry.path ++ ['/']
  else item.entry.path

/-- The path of the first view of its entry, and its own version. -/
def key (item : ObservedItem Facts) : Key :=
  toLex (pathKey ⟨item.entry, item.entry.history.map fun _ => 0⟩, item.versionId)

end ObservedItem

structure CatalogueChange (Facts : Type) where
  item : ObservedItem Facts
  kind : EntryChange
deriving DecidableEq, Repr

/-- Whether two observations of one key agree. -/
def sameObservation [DecidableEq Facts] (previous item : ObservedItem Facts) : Bool :=
  match previous.version, item.version with
  | some left, some right => left = right
  | none, none => previous.entry = item.entry
  | _, _ => false

/-- `dedup_by`: an element equal to the last one kept is removed. -/
def dedup {Item : Type} [DecidableEq Item] : List Item → List Item
  | [] => []
  | first :: rest =>
      match dedup rest with
      | [] => [first]
      | second :: others => if first = second then first :: others else first :: second :: others

/-- Two neighbours have one key. -/
def conflicting : List CatalogueDifference → Bool
  | first :: second :: rest => decide (first.key = second.key) || conflicting (second :: rest)
  | _ => false

structure Bound (Facts : Type) where
  /-- For each difference, the position of its change. -/
  consumed : List (Option Nat)
  changes : List (CatalogueChange Facts)

variable [DecidableEq Facts]

/-- The loop body, for one view of an entry. -/
def bindItem (differences : List CatalogueDifference) (bound : Bound Facts) (item : ObservedItem Facts) :
    Except ProjectionMismatch (Bound Facts) :=
  match binarySearchBy (fun row => cmp row.key item.key) differences with
  | none => .ok bound
  | some index =>
      match differences[index]?, bound.consumed.getD index none with
      | none, _ => .ok bound
      | some _, some position =>
          if bound.changes[position]?.any fun previous => sameObservation previous.item item then .ok bound
          else .error .conflictingObservations
      | some difference, none =>
          .ok ⟨bound.consumed.set index (some bound.changes.length), bound.changes ++ [⟨item, difference.kind⟩]⟩

def itemsOf (entries : List (ObservedEntry Facts)) : List (ObservedItem Facts) := entries.flatMap ObservedItem.all

/-- `bind_input_order` on sorted differences, with the differences it leaves. -/
def bindSorted (entries : List (ObservedEntry Facts)) (sorted : List CatalogueDifference) :
    Except ProjectionMismatch (List (CatalogueChange Facts) × List CatalogueDifference) :=
  let differences := dedup sorted
  if conflicting differences then .error .conflictingClassifications
  else
    match (itemsOf entries).foldlM (bindItem differences) ⟨List.replicate differences.length none, []⟩ with
    | .error mismatch => .error mismatch
    | .ok bound =>
        if bound.consumed.contains none then .error .classificationKey else .ok (bound.changes, differences)

/-- `bind_input_order`, with its unstable sort. -/
def bindInputOrder (sortUnstable : List CatalogueDifference → List CatalogueDifference)
    (entries : List (ObservedEntry Facts)) (differences : List CatalogueDifference) :
    Except ProjectionMismatch (List (CatalogueChange Facts) × List CatalogueDifference) :=
  if differences.isEmpty then .ok ([], [])
  else bindSorted entries (sortUnstable differences)

end Binding

end Terrasync.Catalogue.InputBinding
