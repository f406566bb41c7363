import Mathlib.Algebra.GroupWithZero.Nat
import Mathlib.Order.Lattice

/-! Completed byte ranges of a resumed file. The ranges are half-open and kept sorted;
overlapping and touching ones are merged as they are inserted. -/

set_option autoImplicit false

namespace Terrasync.App

/-- A `u64` range, without its end. -/
abbrev ByteRange := Nat × Nat

structure IntervalSet where
  intervals : List ByteRange
deriving DecidableEq, Repr

namespace IntervalSet

/-- `default`. -/
def empty : IntervalSet := ⟨[]⟩

/-- The pass over the stored ranges: the range under merge, and whether it is written. -/
def merge (start stop : Nat) (placed : Bool) : List ByteRange → List ByteRange
  | [] => if placed then [] else [(start, stop)]
  | (first, last) :: rest =>
      if last < start then (first, last) :: merge start stop placed rest
      else if stop < first then
        if placed then (first, last) :: merge start stop true rest
        else (start, stop) :: (first, last) :: merge start stop true rest
      else merge (min start first) (max stop last) placed rest

def insert (set : IntervalSet) (start stop : Nat) : IntervalSet :=
  if stop ≤ start then set else ⟨merge start stop false set.intervals⟩

/-- The calls of a sequence, one after the other. -/
def insertAll (set : IntervalSet) (calls : List ByteRange) : IntervalSet :=
  calls.foldl (fun set call => set.insert call.1 call.2) set

def fromVec (items : List ByteRange) : IntervalSet := empty.insertAll items

/-- The pass over the stored ranges from the first offset not looked at. -/
def gaps (total : Nat) (current : Nat) : List ByteRange → List ByteRange
  | [] => if current < total then [(current, total)] else []
  | (start, stop) :: rest =>
      if total ≤ current then []
      else if current < start ∧ current < min start total then
        (current, min start total) :: gaps total (max current stop) rest
      else gaps total (max current stop) rest

def missing (set : IntervalSet) (total : Nat) : List ByteRange := gaps total 0 set.intervals

def covers (set : IntervalSet) (total : Nat) : Bool := (set.missing total).isEmpty

end IntervalSet

/-- The progress of one file. -/
structure ByteResumeStore where
  srcSize : Nat
  completed : IntervalSet

namespace ByteResumeStore

/-- `open`, with the ranges of a matching state file. -/
def open_ (srcSize : Nat) (loaded : Option (List ByteRange)) : ByteResumeStore :=
  ⟨srcSize, (loaded.map IntervalSet.fromVec).getD .empty⟩

/-- The end of a chunk is computed in `u64`. -/
def markCommitted (store : ByteResumeStore) (offset len : Nat) : ByteResumeStore :=
  { store with completed := store.completed.insert offset ((offset + len) % 2 ^ 64) }

def missingIntervals (store : ByteResumeStore) : List ByteRange := store.completed.missing store.srcSize

def isComplete (store : ByteResumeStore) : Bool := store.completed.covers store.srcSize

end ByteResumeStore

end Terrasync.App
