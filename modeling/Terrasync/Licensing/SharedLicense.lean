import Terrasync.Lib.Machine
import Terrasync.Licensing.License

/-! One licence file that several machines share and nobody edits. Their runs follow one another
under a common clock that never goes back, and each may break off before, between or behind its
two writes. -/

set_option autoImplicit false

namespace Terrasync.Licensing

inductive Crash where
  | beforeWrites
  | betweenWrites
  | afterWrites
deriving DecidableEq, Repr

structure SharedLicense where
  license : LicenseFile
  sentinels : Nat → Sentinels
  /-- The last time that a run has read. -/
  time : Instant
  /-- The machines on which `activate_license` has returned `Ok`. -/
  activated : List Nat
  /-- What `verify_license` has returned on each machine, kept for `quick_verify`. -/
  loaded : Nat → List LicenseFile
  /-- Every version of the file, the newest first. -/
  versions : List LicenseFile

inductive SharedAction where
  | activate (host : Nat) (now : Instant) (crash : Option Crash)
  | verify (host : Nat) (start advanced : Instant) (crash : Option Crash)
  /-- `quick_verify` writes nothing. -/
  | quick (host : Nat) (now : Instant)
deriving DecidableEq, Repr

namespace SharedLicense

/-- The file as the machines get it, before any of them has a sentinel. -/
def handedOut (license : LicenseFile) (time : Instant) : SharedLicense where
  license := license
  sentinels := fun _ _ => none
  time := time
  activated := []
  loaded := fun _ => []
  versions := [license]

variable (crypto : Crypto) (fingerprint : Nat → Text)

def host (shared : SharedLicense) (host : Nat) : Host := ⟨fingerprint host, shared.sentinels host⟩

/-- The writes of a run that get done: the licence file is replaced first, then the sentinel. -/
def write (shared : SharedLicense) (host : Nat) (saved : Saved) : Option Crash → SharedLicense
  | some .beforeWrites => shared
  | some .betweenWrites =>
      { shared with license := saved.license, versions := saved.license :: shared.versions }
  | some .afterWrites | none =>
      { shared with
        license := saved.license
        sentinels := Function.update shared.sentinels host saved.sentinels
        versions := saved.license :: shared.versions }

def activate (shared : SharedLicense) (host : Nat) (now : Instant) (crash : Option Crash) : SharedLicense :=
  match shared.license.activateLicense crypto (shared.host fingerprint host) now with
  | .error _ => shared
  | .ok saved =>
      let written := saved.elim shared fun saved => shared.write host saved crash
      if crash = none then { written with activated := host :: written.activated } else written

def verify (shared : SharedLicense) (host : Nat) (start advanced : Instant) (crash : Option Crash) :
    SharedLicense :=
  match shared.license.verifyLicense crypto (shared.host fingerprint host) start advanced with
  | .error _ => shared
  | .ok saved =>
      let written := shared.write host saved crash
      if crash = none then
        { written with
          loaded := Function.update written.loaded host (saved.license :: written.loaded host) }
      else written

def step (shared : SharedLicense) : SharedAction → Option SharedLicense
  | .activate host now crash =>
      if shared.time ≤ now then some (({ shared with time := now }).activate crypto fingerprint host now crash)
      else none
  | .verify host start advanced crash =>
      if shared.time ≤ start ∧ start ≤ advanced then
        some (({ shared with time := advanced }).verify crypto fingerprint host start advanced crash)
      else none
  | .quick _ now => if shared.time ≤ now then some { shared with time := now } else none

def machine : Lib.Machine SharedLicense SharedAction where
  step := fun shared action => shared.step crypto fingerprint action

end SharedLicense

namespace LicenseFile

def machines (license : LicenseFile) : List MachineBinding :=
  (license.activation.map Activation.machines).getD []

/-- The licence lists the machine. -/
def Listed (fingerprint : Text) (license : LicenseFile) : Prop :=
  fingerprint ∈ license.machines.map MachineBinding.machineFingerprint

def Unexpired (license : LicenseFile) (now : Instant) : Prop :=
  ∀ expiresAt, license.payload.expiresAt = some expiresAt → now ≤ expiresAt

/-- Neither the clock nor the last verification of a machine went back. -/
structure Advances (earlier later : LicenseFile) : Prop where
  clock : ∀ clock, earlier.licenseClock = some clock →
    ∃ next, later.licenseClock = some next ∧ clock ≤ next
  machines : ∀ (place : Nat) (machine : MachineBinding), earlier.machines[place]? = some machine →
    ∃ next : MachineBinding, later.machines[place]? = some next ∧
      next.machineFingerprint = machine.machineFingerprint ∧ machine.lastVerified ≤ next.lastVerified

/-- A limited licence as it was issued, or as an older version of the program has activated it:
without a clock, and bound, if at all, in the older format. -/
structure Issued (crypto : Crypto) (time : Instant) (license : LicenseFile) : Prop where
  signed : crypto.verifySignature license.payload license.signature = true
  limited : 0 < license.payload.maxMachines
  clock : license.licenseClock = none
  bound : ∀ activation, license.activation = some activation →
    crypto.computeBindingHmac license.signature activation.machines none = activation.bindingHmac
  past : ∀ machine ∈ license.machines, machine.lastVerified ≤ time

end LicenseFile

/-- On a machine that was activated, every check of the file, and every quick check of a licence
that was loaded there, passes from now on until the licence expires. -/
structure SharedLicense.NeverLockedOut (crypto : Crypto) (fingerprint : Nat → Text) (shared : SharedLicense) :
    Prop where
  verifies : ∀ host ∈ shared.activated, ∀ start advanced, shared.time ≤ start → start ≤ advanced →
    shared.license.Unexpired start →
    ∃ saved, shared.license.verifyLicense crypto (shared.host fingerprint host) start advanced = .ok saved
  quick : ∀ host ∈ shared.activated, ∀ now, shared.time ≤ now → shared.license.Unexpired now →
    ∀ license ∈ shared.license :: shared.loaded host,
      license.quickVerify crypto (fingerprint host) now = .ok ()
  forward : shared.versions.Pairwise fun later earlier => earlier.Advances later

end Terrasync.Licensing
