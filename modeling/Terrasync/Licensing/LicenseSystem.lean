import Terrasync.Lib.Machine
import Terrasync.Licensing.License

/-! One licence file that is carried between machines, and what may happen to it. -/

set_option autoImplicit false

namespace Terrasync.Licensing

structure LicenseSystem where
  license : LicenseFile
  sentinels : Nat → Sentinels
  /-- The messages whose binding HMAC the program has written so far. -/
  issued : List Text
  /-- The machines that were added, each with the number of machines found before. -/
  added : List (Text × Nat)
  /-- Every version of the file the program has written, the newest first. -/
  versions : List LicenseFile

inductive LicenseAction where
  | activate (host : Nat) (now : Instant)
  | verify (host : Nat) (start advanced : Instant)
  /-- Somebody rewrites what the signature does not cover. -/
  | edit (activation : Option Activation) (licenseClock : Option Instant)

namespace LicenseSystem

/-- A licence as it was issued. -/
def new (license : LicenseFile) : LicenseSystem where
  license := { license with activation := none, licenseClock := none }
  sentinels := fun _ _ => none
  issued := []
  added := []
  versions := []

variable (crypto : Crypto) (fingerprint : Nat → Text)

def host (system : LicenseSystem) (host : Nat) : Host := ⟨fingerprint host, system.sentinels host⟩

/-- The message that the file's binding HMAC was computed for. -/
def messageOf (license : LicenseFile) : List Text :=
  (license.activation.map fun activation =>
    crypto.buildHmacMessage activation.machines license.licenseClock).toList

/-- A run on a machine has written the file and perhaps the sentinel. -/
def save (system : LicenseSystem) (host : Nat) (saved : Saved) : LicenseSystem :=
  { system with
    license := saved.license
    sentinels := Function.update system.sentinels host saved.sentinels
    issued := messageOf crypto saved.license ++ system.issued
    versions := saved.license :: system.versions }

/-- The number of machines a run finds in the file. -/
def found (license : LicenseFile) : Nat :=
  (license.activation.map fun activation => activation.machines.length).getD 0

def activate (system : LicenseSystem) (host : Nat) (now : Instant) : LicenseSystem :=
  match system.license.activateLicense crypto (system.host fingerprint host) now with
  | .ok (some saved) =>
      { system.save crypto host saved with
        added := (fingerprint host, found system.license) :: system.added }
  | .ok none | .error _ => system

def verify (system : LicenseSystem) (host : Nat) (start advanced : Instant) : LicenseSystem :=
  match system.license.verifyLicense crypto (system.host fingerprint host) start advanced with
  | .ok saved => system.save crypto host saved
  | .error _ => system

def step (system : LicenseSystem) : LicenseAction → LicenseSystem
  | .activate host now => system.activate crypto fingerprint host now
  | .verify host start advanced => system.verify crypto fingerprint host start advanced
  | .edit activation licenseClock => { system with license := { system.license with activation, licenseClock } }

def machine : Lib.Machine LicenseSystem LicenseAction where
  step := fun system action => some (system.step crypto fingerprint action)

/-- The licence file passes on a machine, in full or in the quick check. -/
def Accepts (system : LicenseSystem) (host : Nat) : Prop :=
  (∃ start advanced saved,
      system.license.verifyLicense crypto (system.host fingerprint host) start advanced = .ok saved) ∨
    ∃ now, system.license.quickVerify crypto (fingerprint host) now = .ok ()

end LicenseSystem

end Terrasync.Licensing
