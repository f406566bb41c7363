import Terrasync.Scan.ScanProgress

/-! The saved state of a scan, `ScanResumeState` of `scan/model.rs`, and the request that it is
for, as `scan_resume.rs` digests it. -/

set_option autoImplicit false

namespace Terrasync.Scan

inductive ScanPhase where
  | running
  | finalizing
  | completed
  | abandoned
deriving DecidableEq, Repr

/-! ### Requests -/

/-- The source of a scan and the options that select what it observes. -/
structure ScanRequest where
  kind : String
  identity : String
  depth : UInt32
  includes : Option String
  excludes : Option String
  tags : Bool
deriving DecidableEq, Repr

/-- What `request_key` hashes. -/
abbrev RequestFields := Nat × String × String × UInt32 × Option String × Option String × Bool × Bool

/-- `request_key`; `digest` is the hash of the JSON. -/
def ScanRequest.requestKey (digest : RequestFields → List Char) (request : ScanRequest) (resume : Bool) : List Char :=
  digest (2, request.kind, request.identity, request.depth, request.includes, request.excludes, request.tags,
    resume)

/-- Where the digest tells inputs apart, a round begun without resumption is for another request
than any session that resumes. -/
theorem ScanRequest.requestKey_ne {digest : RequestFields → List Char} (apart : Function.Injective digest)
    (request other : ScanRequest) : request.requestKey digest false ≠ other.requestKey digest true := by
  intro same
  have fields := apart same
  simp at fields

/-! ### States -/

/-- `StatisticsCheckpoint`: the snapshot of the scan, and the entries that its distributions count. -/
structure StatisticsCheckpoint where
  snapshot : Statistics.ScanSnapshot
  distributions : List ObservedEntry
deriving DecidableEq, Repr

/-- A snapshot of the tables is named by its token; nothing are the statistics of a new scan. -/
structure ScanResumeState where
  version : Nat
  requestKey : List Char
  generation : Nat
  incremental : Bool
  phase : ScanPhase
  observedEntries : Nat
  checkpoint : List UInt8
  statistics : Option StatisticsCheckpoint
  baselineSnapshot : Nat
  checkpointSnapshot : Nat
deriving DecidableEq, Repr

namespace ScanResumeState

def validate (state : ScanResumeState) (requestKey : List Char) : Bool := state.requestKey = requestKey

def active (state : ScanResumeState) : Bool := state.phase = .running || state.phase = .finalizing

def advance (state : ScanResumeState) : Option ScanResumeState :=
  if state.version + 1 < 2 ^ 64 then some { state with version := state.version + 1 } else none

/-- The state behind the last commit. -/
def complete (state : ScanResumeState) : Option ScanResumeState :=
  { state with phase := .completed, checkpoint := [] }.advance

theorem advance_eq {state next : ScanResumeState} (advanced : state.advance = some next) :
    next = { state with version := state.version + 1 } := by
  unfold advance at advanced
  split at advanced
  · exact (Option.some.inj advanced).symm
  · cases advanced

theorem active_iff {state : ScanResumeState} :
    state.active = true ↔ state.phase = .running ∨ state.phase = .finalizing := by
  simp [active]

end ScanResumeState

end Terrasync.Scan
