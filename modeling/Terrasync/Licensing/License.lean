import Mathlib.Data.List.Basic
import Mathlib.Logic.Function.Basic
import Terrasync.Lib.TextEquality

/-! Offline licences: activation, verification and the sentinel file, as the `licensing`
crate computes them. The cryptographic primitives and the rendering of times are
parameters; files are read back as they were written. Times are nanoseconds. -/

set_option autoImplicit false

namespace Terrasync.Licensing

abbrev Text := List Char

/-- `DateTime<Utc>` -/
abbrev Instant := Int

inductive LicenseError where
  | signatureInvalid
  | expired (expiresAt : Text)
  | activationWindowExpired (issuedAt : Text) (windowDays : Nat)
  | machineBindingMismatch
  | maxMachinesReached (max : Nat)
  | bindingHmacInvalid
  | clockRegression
  | licenseFileRestored (sentinelClock licenseClock : Text)
  | sentinelMismatch
  | notActivated
deriving DecidableEq, Repr

structure Payload where
  licenseId : Text
  licensee : Text
  issuedAt : Instant
  expiresAt : Option Instant
  activationWindowDays : Nat
  maxMachines : Nat
deriving DecidableEq, Repr

structure MachineBinding where
  machineFingerprint : Text
  activatedAt : Instant
  lastVerified : Instant
deriving DecidableEq, Repr

structure Activation where
  machines : List MachineBinding
  bindingHmac : Text
deriving DecidableEq, Repr

structure LicenseFile where
  payload : Payload
  signature : Text
  activation : Option Activation
  licenseClock : Option Instant
deriving DecidableEq, Repr

structure SentinelData where
  id : Text
  fp : Text
  ts : Instant
  ck : Instant
  hm : Text
deriving DecidableEq, Repr

structure Crypto where
  /-- The Ed25519 check of the payload's JSON against the embedded public key. -/
  verifySignature : Payload → Text → Bool
  /-- HMAC-SHA256 of a message, under the key derived from the embedded secret and the
  signature. -/
  bindingMac : Text → Text → Text
  /-- HMAC-SHA256 of a message under the embedded secret. -/
  sentinelMac : Text → Text
  sha256Hex : Text → Text
  toRfc3339 : Instant → Text

/-- The directory of the sentinel files of one machine, by file name. -/
abbrev Sentinels := Text → Option SentinelData

namespace Crypto

def bindingLine (crypto : Crypto) (machine : MachineBinding) : Text :=
  machine.machineFingerprint ++ ':' :: crypto.toRfc3339 machine.activatedAt ++
    ':' :: crypto.toRfc3339 machine.lastVerified

def clockLine (crypto : Crypto) (clock : Instant) : Text :=
  ['c', 'l', 'o', 'c', 'k'] ++ ':' :: crypto.toRfc3339 clock

/-- The parts of the message: the machines, then the clock. -/
def hmacParts (crypto : Crypto) (machines : List MachineBinding) (licenseClock : Option Instant) :
    List Text :=
  machines.map crypto.bindingLine ++ licenseClock.toList.map crypto.clockLine

def buildHmacMessage (crypto : Crypto) (machines : List MachineBinding) (licenseClock : Option Instant) :
    Text :=
  ['|'].intercalate (crypto.hmacParts machines licenseClock)

def computeBindingHmac (crypto : Crypto) (signature : Text) (machines : List MachineBinding)
    (licenseClock : Option Instant) : Text :=
  crypto.bindingMac signature (crypto.buildHmacMessage machines licenseClock)

def computeSentinelHmac (crypto : Crypto) (licenseId fingerprint : Text) (activatedAt : Instant) : Text :=
  crypto.sentinelMac (licenseId ++ ':' :: fingerprint ++ ':' :: crypto.toRfc3339 activatedAt)

/-- The first 16 digits of the hash. -/
def shortHash (crypto : Crypto) (text : Text) : Text := (crypto.sha256Hex text).take 16

def sentinelPath (crypto : Crypto) (licenseId : Text) : Text :=
  ".rt_".toList ++ crypto.shortHash licenseId ++ ".dat".toList

def readSentinel (crypto : Crypto) (sentinels : Sentinels) (licenseId : Text) : Option SentinelData :=
  sentinels (crypto.sentinelPath licenseId)

def writeSentinel (crypto : Crypto) (sentinels : Sentinels) (data : SentinelData) : Sentinels :=
  Function.update sentinels (crypto.sentinelPath data.id) (some data)

def verifySentinel (crypto : Crypto) (sentinel : SentinelData) (currentFingerprint : Text)
    (licenseClock : Option Instant) : Except LicenseError Unit :=
  if crypto.computeSentinelHmac sentinel.id sentinel.fp sentinel.ts ≠ sentinel.hm then
    .error .bindingHmacInvalid
  else if sentinel.fp ≠ currentFingerprint then .error .sentinelMismatch
  else
    match licenseClock with
    | none => .ok ()
    | some fileClock =>
        if fileClock < sentinel.ck then
          .error (.licenseFileRestored (crypto.toRfc3339 sentinel.ck) (crypto.toRfc3339 fileClock))
        else .ok ()

end Crypto

/-- What a run wrote: the licence file, the sentinel directory and, if it wrote one, the
sentinel. -/
structure Saved where
  license : LicenseFile
  sentinels : Sentinels
  sentinel : Option SentinelData

/-- `collect_fingerprint` and the sentinel directory of the machine a run is on. -/
structure Host where
  fingerprint : Text
  sentinels : Sentinels

namespace LicenseFile

/-- The binding HMAC with the clock, or the older one without it. -/
def bindingHmacMatches (crypto : Crypto) (license : LicenseFile) (activation : Activation) : Prop :=
  crypto.computeBindingHmac license.signature activation.machines license.licenseClock =
      activation.bindingHmac ∨
    crypto.computeBindingHmac license.signature activation.machines none = activation.bindingHmac

instance (crypto : Crypto) (license : LicenseFile) (activation : Activation) :
    Decidable (license.bindingHmacMatches crypto activation) :=
  inferInstanceAs (Decidable (_ ∨ _))

def sign (crypto : Crypto) (license : LicenseFile) (machines : List MachineBinding)
    (licenseClock : Option Instant) : LicenseFile :=
  { license with
    activation := some ⟨machines, crypto.computeBindingHmac license.signature machines licenseClock⟩
    licenseClock }

/-- One day in nanoseconds. -/
def day : Int := 86400 * 1000000000

def lists (fingerprint : Text) (machines : List MachineBinding) : Bool :=
  machines.any fun machine => machine.machineFingerprint = fingerprint

/-- The last steps of `activate_license`: the file is written, then the sentinel. -/
def saveActivation (crypto : Crypto) (host : Host) (now : Instant) (license : LicenseFile) : Saved :=
  let sentinelId := crypto.shortHash license.payload.licenseId
  let sentinel : SentinelData :=
    { id := sentinelId
      fp := host.fingerprint
      ts := now
      ck := license.licenseClock.getD now
      hm := crypto.computeSentinelHmac sentinelId host.fingerprint now }
  ⟨license, crypto.writeSentinel host.sentinels sentinel, some sentinel⟩

/-- The sentinel shows that this machine has activated the licence. -/
def sentinelActivated (crypto : Crypto) (host : Host) (license : LicenseFile) : Bool :=
  match crypto.readSentinel host.sentinels license.payload.licenseId with
  | some sentinel =>
      sentinel.fp = host.fingerprint ∧ sentinel.id = crypto.shortHash license.payload.licenseId
  | none => false

/-- A new machine is added to the list of an activated licence; `none` when the machine is
on it already. -/
def addMachine (crypto : Crypto) (host : Host) (now : Instant) (license : LicenseFile)
    (activation : Activation) : Except LicenseError (Option LicenseFile) :=
  if ¬ license.bindingHmacMatches crypto activation then .error .bindingHmacInvalid
  else if lists host.fingerprint activation.machines then .ok none
  else if license.payload.maxMachines ≤ activation.machines.length then
    .error (.maxMachinesReached license.payload.maxMachines)
  else
    .ok (some (license.sign crypto (activation.machines ++ [⟨host.fingerprint, now, now⟩])
      (some (license.licenseClock.getD now))))

/-- `activate_license`; `none` when it has nothing to write. -/
def activateLicense (crypto : Crypto) (host : Host) (now : Instant) (license : LicenseFile) :
    Except LicenseError (Option Saved) :=
  if crypto.verifySignature license.payload license.signature = false then .error .signatureInvalid
  else if license.payload.maxMachines = 0 then .ok none
  else if license.payload.activationWindowDays * day < now - license.payload.issuedAt then
    .error (.activationWindowExpired (crypto.toRfc3339 license.payload.issuedAt)
      license.payload.activationWindowDays)
  else if license.sentinelActivated crypto host then .ok none
  else
    match license.activation with
    | none =>
        .ok (some (saveActivation crypto host now
          (license.sign crypto [⟨host.fingerprint, now, now⟩] (some now))))
    | some activation => do
        let added ← license.addMachine crypto host now activation
        .ok (added.map (saveActivation crypto host now))

/-- `check_expiry_with_clock`, and `check_expiry` with the system time. -/
def checkExpiry (crypto : Crypto) (license : LicenseFile) (now : Instant) : Except LicenseError Unit :=
  match license.payload.expiresAt with
  | none => .ok ()
  | some expiresAt =>
      if expiresAt < now then .error (.expired (crypto.toRfc3339 expiresAt)) else .ok ()

/-- `LicenseClock::from_persisted` at a system time, or a new clock. -/
def startClock (license : LicenseFile) (systemNow : Instant) : Except LicenseError Instant :=
  match license.licenseClock with
  | some persisted => if systemNow < persisted then .error .clockRegression else .ok systemNow
  | none => .ok systemNow

/-- `LicenseClock::advance` -/
def advanceClock (value systemNow : Instant) : Except LicenseError Instant :=
  if systemNow < value then .error .clockRegression else .ok systemNow

/-- `update_sentinel_clock`: the sentinel gets the clock of the file, and a machine without
one gets a new one. -/
def updateSentinelClock (crypto : Crypto) (sentinels : Sentinels) (fingerprint : Option Text)
    (license : LicenseFile) : Saved :=
  match crypto.readSentinel sentinels license.payload.licenseId with
  | some sentinel =>
      let updated := { sentinel with ck := license.licenseClock.getD sentinel.ck }
      ⟨license, crypto.writeSentinel sentinels updated, some updated⟩
  | none =>
      match fingerprint, license.licenseClock with
      | some fp, some clock =>
          let sentinel : SentinelData :=
            { id := crypto.shortHash license.payload.licenseId
              fp
              ts := clock
              ck := clock
              hm := crypto.computeSentinelHmac license.payload.licenseId fp clock }
          ⟨license, crypto.writeSentinel sentinels sentinel, some sentinel⟩
      | _, _ => ⟨license, sentinels, none⟩

/-- The machine's entry, with the time of this verification. -/
def touch (fingerprint : Text) (clock : Instant) : List MachineBinding → List MachineBinding
  | [] => []
  | machine :: rest =>
      if machine.machineFingerprint = fingerprint then { machine with lastVerified := clock } :: rest
      else machine :: touch fingerprint clock rest

/-- Steps 5 to 9 of `verify_license`. -/
def checkBinding (crypto : Crypto) (host : Host) (start : Instant) (license : LicenseFile)
    (activation : Activation) : Except LicenseError Unit :=
  if ¬ license.bindingHmacMatches crypto activation then .error .bindingHmacInvalid
  else do
    license.checkExpiry crypto start
    if lists host.fingerprint activation.machines = false then .error .machineBindingMismatch
    else
      match crypto.readSentinel host.sentinels license.payload.licenseId with
      | some sentinel => crypto.verifySentinel sentinel host.fingerprint license.licenseClock
      | none => .ok ()

/-- `verify_license`; the system time is read when the clock starts and when it advances. -/
def verifyLicense (crypto : Crypto) (host : Host) (start advanced : Instant) (license : LicenseFile) :
    Except LicenseError Saved :=
  if crypto.verifySignature license.payload license.signature = false then .error .signatureInvalid
  else do
    let clock ← license.startClock start
    if license.payload.maxMachines = 0 then
      license.checkExpiry crypto clock
      .ok (updateSentinelClock crypto host.sentinels none { license with licenseClock := some clock })
    else
      match license.activation with
      | none => .error .notActivated
      | some activation =>
          license.checkBinding crypto host clock activation
          let clockNow ← advanceClock clock advanced
          .ok (updateSentinelClock crypto host.sentinels (some host.fingerprint)
            (license.sign crypto (touch host.fingerprint clockNow activation.machines) (some clockNow)))

/-- `quick_verify` -/
def quickVerify (crypto : Crypto) (fingerprint : Text) (now : Instant) (license : LicenseFile) :
    Except LicenseError Unit :=
  if crypto.verifySignature license.payload license.signature = false then .error .signatureInvalid
  else do
    let clock ← license.startClock now
    license.checkExpiry crypto clock
    if license.payload.maxMachines = 0 then .ok ()
    else
      match license.activation with
      | none => .error .notActivated
      | some activation =>
          if ¬ license.bindingHmacMatches crypto activation then .error .bindingHmacInvalid
          else if lists fingerprint activation.machines = false then .error .machineBindingMismatch
          else .ok ()

end LicenseFile

end Terrasync.Licensing
