import Terrasync.App.DatabaseConsumerProperties
import Terrasync.Catalogue.CopyGeneration
import Terrasync.Lib.Machine

/-! Copy rounds of one job as a machine over its tables. A round begins a generation,
writes rows, detects and applies deletions, and commits; it may stop anywhere, and the
database may merge superseded rows at any time. -/

set_option autoImplicit false

namespace Terrasync.Catalogue

structure CopyRound where
  tables : GenerationTables
  /-- The generation of the running process. -/
  lifecycle : Option ScanGenerationLifecycle
  /-- The statuses that remain to be applied, once they were detected. -/
  pending : Option (List DeletionStatus)
  /-- The views written in this round. -/
  acknowledged : List ObservedItem
deriving DecidableEq

def CopyRound.initial : CopyRound := ⟨.initial, none, none, []⟩

inductive RoundAction where
  | begin (requestKey : List Char)
  /-- A crash between the two writes of `begin_copy_generation`. -/
  | crashInBegin (requestKey : List Char)
  | write (views : List ObservedItem)
  | merge (kept : BaseTable)
  | detect
  /-- A crash after part of the versions were retired. -/
  | crashInDetect (count : Nat)
  | apply
  | commit
  | stop

namespace DeletionStatus

def message : DeletionStatus → StorageEntryMessage
  | deleted entry => .deleted entry
  | renamed fromEntry toEntry => .renamed fromEntry toEntry

/-- The view its message inserts. -/
def insertedViews : DeletionStatus → List ObservedItem
  | deleted _ => []
  | renamed _ toEntry => [ObservedItem.ofEntry toEntry]

end DeletionStatus

namespace CopyRound

/-- The generation a process works on until it commits. -/
def openLifecycle (round : CopyRound) : Option ScanGenerationLifecycle :=
  round.lifecycle.bind fun lifecycle => if lifecycle.committed then none else some lifecycle

def setBase (round : CopyRound) (base : BaseTable) : CopyRound :=
  { round with tables := { round.tables with base := base } }

def begin (round : CopyRound) (requestKey : List Char) : Option CopyRound :=
  if round.lifecycle.isSome then none
  else
    match beginCopyGeneration round.tables requestKey with
    | .ok (tables, lifecycle) => some ⟨tables, some lifecycle, none, []⟩
    | .error _ => none

def crashInBegin (round : CopyRound) (requestKey : List Char) : Option CopyRound :=
  if round.lifecycle.isSome then none
  else
    match checkCopyRequest round.tables requestKey with
    | .ok recovering => some { round with tables := rebaseRecovering round.tables recovering }
    | .error _ => none

def write (round : CopyRound) (views : List ObservedItem) : Option CopyRound :=
  round.openLifecycle.map fun lifecycle =>
    { round.setBase (round.tables.base.insertViews lifecycle.working views) with
      acknowledged := round.acknowledged ++ views }

def merge (round : CopyRound) (kept : BaseTable) : Option CopyRound :=
  if kept.Sublist round.tables.base ∧ kept.finalRows = round.tables.base.finalRows then
    some (round.setBase kept)
  else none

def detect (ctime : ObservedItem → Int) (round : CopyRound) : Option CopyRound :=
  if round.pending.isSome then none
  else
    round.openLifecycle.map fun lifecycle =>
      { round.setBase (detectDeletedItems ctime round.tables.base lifecycle).1 with
        pending := some (detectDeletedItems ctime round.tables.base lifecycle).2 }

def stop (round : CopyRound) : CopyRound := { round with lifecycle := none, pending := none }

def crashInDetect (round : CopyRound) (count : Nat) : Option CopyRound :=
  round.openLifecycle.bind fun lifecycle =>
    if lifecycle.copyRecovery then
      some (round.setBase (retireCopyVersions round.tables.base lifecycle.working
        ((retiredKeys round.tables.base (round.tables.base.oldRows lifecycle.working)
          lifecycle.working).take count))).stop
    else none

def apply (round : CopyRound) : Option CopyRound :=
  match round.openLifecycle, round.pending with
  | some lifecycle, some (status :: rest) =>
      some { round.setBase (App.baseEffect lifecycle.working round.tables.base status.message) with
        pending := some rest
        acknowledged := round.acknowledged ++ status.insertedViews }
  | _, _ => none

/-- Only a round whose statuses were all applied commits. -/
def commit (round : CopyRound) : Option CopyRound :=
  if round.pending = some [] then
    match commitScanGeneration round.tables round.lifecycle with
    | .ok (tables, lifecycle) => some { round with tables := tables, lifecycle := some lifecycle }
    | .error _ => none
  else none

def step (ctime : ObservedItem → Int) (round : CopyRound) : RoundAction → Option CopyRound
  | .begin requestKey => round.begin requestKey
  | .crashInBegin requestKey => round.crashInBegin requestKey
  | .write views => round.write views
  | .merge kept => round.merge kept
  | .detect => round.detect ctime
  | .crashInDetect count => round.crashInDetect count
  | .apply => round.apply
  | .commit => round.commit
  | .stop => some round.stop

end CopyRound

/-- Copy rounds, with the creation time each row stores. -/
def copyRounds (ctime : ObservedItem → Int) : Lib.Machine CopyRound RoundAction where
  step := CopyRound.step ctime

end Terrasync.Catalogue
