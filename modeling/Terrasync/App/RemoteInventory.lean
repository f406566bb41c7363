import Mathlib.Algebra.Group.Int.Defs
import Mathlib.Algebra.GroupWithZero.Nat
import Mathlib.Data.Char
import Mathlib.Data.List.Lex
import Terrasync.Transport.Message

/-! The directory pages of `remote_inventory.rs`: traversal items are collected per
directory, sorted by name and numbered with one session counter. -/

set_option autoImplicit false

namespace Terrasync.App

open Transport

/-- `i32::MAX`. -/
def i32Max : Int := 2 ^ 31 - 1

/-- `next.saturating_add(1)`. -/
def saturatingSucc (ndx : Ndx) : Ndx := min (ndx + 1) i32Max

/-- Items of a traversal session. -/
inductive TraversalItem where
  | entry (entry : ObservedEntry)
  | directoryListed (path : RelativePath)
  | failure (path : RelativePath) (reason : String)
  | observationFailure (path : RelativePath) (reason : String)
  | other
deriving DecidableEq, Repr

inductive NdxEvent where
  | page (page : DirPageResult)
  | error (path : RelativePath) (reason : String)
  | done
deriving DecidableEq, Repr

/-- What the producer collected since the last page, and its counter. -/
structure Inventory where
  files : List ObservedItem
  subdirs : List ObservedItem
  next : Ndx
deriving DecidableEq, Repr

namespace Inventory

def start : Inventory := ⟨[], [], 0⟩

/-- Entries with a history contribute one file per version, directories included. -/
def collect (inventory : Inventory) (entry : ObservedEntry) : Inventory :=
  if entry.history.isSome then { inventory with files := inventory.files ++ ObservedItem.all entry }
  else if entry.getIsDir then { inventory with subdirs := inventory.subdirs ++ [.ofEntry entry] }
  else { inventory with files := inventory.files ++ [.ofEntry entry] }

def sortByName (items : List ObservedItem) : List ObservedItem :=
  items.mergeSort fun left right => left.entry.getName ≤ right.entry.getName

/-- Number items consecutively; returns the counter after the last one. -/
def indexed (next : Ndx) : List ObservedItem → List NdxEntry × Ndx
  | [] => ([], next)
  | item :: rest =>
      let numbered := indexed (saturatingSucc next) rest
      (⟨next, item⟩ :: numbered.1, numbered.2)

/-- The page of a listed directory. The gap after it takes one index. -/
def listed (inventory : Inventory) (path : RelativePath) : Inventory × DirPageResult :=
  let files := indexed inventory.next (sortByName inventory.files)
  let subdirs := indexed files.2 (sortByName inventory.subdirs)
  (⟨[], [], saturatingSucc subdirs.2⟩,
    { dirPath := path, ndxStart := inventory.next, files := files.1, subdirs := subdirs.1,
      gapNdx := subdirs.2 })

def step (inventory : Inventory) : TraversalItem → Inventory × List NdxEvent
  | .entry entry => (inventory.collect entry, [])
  | .directoryListed path => ((inventory.listed path).1, [.page (inventory.listed path).2])
  | .failure path reason => (inventory, [.error path reason])
  | .observationFailure path reason => (inventory, [.error path reason])
  | .other => (inventory, [])

/-- The events of the rest of a session; an error item ends it without `Done`. -/
def events (inventory : Inventory) (outcome : Except String Unit) :
    List (Except String TraversalItem) → List NdxEvent
  | [] =>
      match outcome with
      | .ok () => [.done]
      | .error reason => [.error [] s!"traversal did not complete: {reason}"]
  | .error reason :: _ => [.error [] reason]
  | .ok item :: rest => (inventory.step item).2 ++ (inventory.step item).1.events outcome rest

end Inventory

def directoryPages (items : List (Except String TraversalItem)) (outcome : Except String Unit) :
    List NdxEvent :=
  Inventory.start.events outcome items

end Terrasync.App
