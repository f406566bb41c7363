import Terrasync.Lib.Fallible
import Terrasync.Licensing.License

/-! What a successful activation, verification or quick check says of the licence file and
the sentinel directory. -/

set_option autoImplicit false

namespace Terrasync.Licensing.LicenseFile

variable {crypto : Crypto} {host : Host} {license : LicenseFile}

theorem checkBinding_ok {start : Instant} {activation : Activation}
    (checked : license.checkBinding crypto host start activation = .ok ()) :
    license.bindingHmacMatches crypto activation ∧ license.checkExpiry crypto start = .ok () ∧
      lists host.fingerprint activation.machines = true ∧
      ∀ sentinel, crypto.readSentinel host.sentinels license.payload.licenseId = some sentinel →
        crypto.verifySentinel sentinel host.fingerprint license.licenseClock = .ok () := by
  simp only [checkBinding] at checked
  split at checked
  · cases checked
  · next bound =>
      obtain ⟨_, expiry, rest⟩ := Lib.bind_eq_ok.mp checked
      split at rest
      · cases rest
      · next listed =>
          refine ⟨not_not.mp bound, expiry, Bool.not_eq_false _ |>.mp listed, ?_⟩
          intro sentinel read
          rw [read] at rest
          exact rest

/-- A limited licence that passes is activated, bound to the machine and not older than its
sentinel; its file is signed anew with the advanced clock. -/
theorem verifyLicense_ok {start advanced : Instant} {saved : Saved}
    (limited : license.payload.maxMachines ≠ 0)
    (verified : license.verifyLicense crypto host start advanced = .ok saved) :
    ∃ activation, license.activation = some activation ∧ license.startClock start = .ok start ∧
      license.checkBinding crypto host start activation = .ok () ∧ start ≤ advanced ∧
      saved = updateSentinelClock crypto host.sentinels (some host.fingerprint)
        (license.sign crypto (touch host.fingerprint advanced activation.machines) (some advanced)) := by
  simp only [verifyLicense, if_neg limited] at verified
  split at verified
  · cases verified
  obtain ⟨clock, started, rest⟩ := Lib.bind_eq_ok.mp verified
  have clock : clock = start := by
    simp only [startClock] at started
    split at started
    · split at started <;> cases started
      rfl
    · cases started
      rfl
  subst clock
  split at rest
  · cases rest
  · next activation activated =>
      obtain ⟨_, checked, later⟩ := Lib.bind_eq_ok.mp rest
      obtain ⟨clockNow, advances, saves⟩ := Lib.bind_eq_ok.mp later
      simp only [advanceClock] at advances
      split at advances
      · cases advances
      · next ahead =>
          cases advances
          cases saves
          exact ⟨activation, activated, started, checked, Int.not_lt.mp ahead, rfl⟩

theorem quickVerify_ok {fingerprint : Text} {now : Instant} (limited : license.payload.maxMachines ≠ 0)
    (verified : license.quickVerify crypto fingerprint now = .ok ()) :
    ∃ activation, license.activation = some activation ∧ license.bindingHmacMatches crypto activation ∧
      lists fingerprint activation.machines = true := by
  simp only [quickVerify, if_neg limited] at verified
  split at verified
  · cases verified
  obtain ⟨clock, _, rest⟩ := Lib.bind_eq_ok.mp verified
  obtain ⟨_, _, later⟩ := Lib.bind_eq_ok.mp rest
  split at later
  · cases later
  · next activation activated =>
      split at later
      · cases later
      · next bound =>
          split at later
          · cases later
          · next listed => exact ⟨activation, activated, not_not.mp bound, Bool.not_eq_false _ |>.mp listed⟩

/-- An activation that writes either starts the list or appends to one that is bound and
below the limit. -/
theorem activateLicense_ok {now : Instant} {saved : Saved}
    (activated : license.activateLicense crypto host now = .ok (some saved)) :
    license.payload.maxMachines ≠ 0 ∧
      ((license.activation = none ∧ saved = saveActivation crypto host now
          (license.sign crypto [⟨host.fingerprint, now, now⟩] (some now))) ∨
        ∃ activation, license.activation = some activation ∧
          license.bindingHmacMatches crypto activation ∧
          activation.machines.length < license.payload.maxMachines ∧
          saved = saveActivation crypto host now
            (license.sign crypto (activation.machines ++ [⟨host.fingerprint, now, now⟩])
              (some (license.licenseClock.getD now)))) := by
  simp only [activateLicense] at activated
  split at activated
  · cases activated
  split at activated
  · cases activated
  split at activated
  · cases activated
  split at activated
  · cases activated
  next limited _ _ =>
    refine ⟨limited, ?_⟩
    split at activated
    · next fresh =>
        cases activated
        exact .inl ⟨fresh, rfl⟩
    · next activation existing =>
        obtain ⟨added, adds, saves⟩ := Lib.bind_eq_ok.mp activated
        simp only [addMachine] at adds
        split at adds
        · cases adds
        next bound =>
          split at adds
          · cases adds
            cases saves
          split at adds
          · cases adds
          next room =>
            cases adds
            cases saves
            exact .inr ⟨activation, existing, not_not.mp bound, Nat.not_le.mp room, rfl⟩

/-- A machine that finds its own sentinel activates nothing. -/
theorem activateLicense_unseen {now : Instant} {saved : Saved}
    (activated : license.activateLicense crypto host now = .ok (some saved)) :
    license.sentinelActivated crypto host = false := by
  simp only [activateLicense] at activated
  split at activated
  · cases activated
  split at activated
  · cases activated
  split at activated
  · cases activated
  split at activated
  · cases activated
  · next unseen => exact Bool.eq_false_iff.mpr unseen

theorem updateSentinelClock_license (crypto : Crypto) (sentinels : Sentinels) (fingerprint : Option Text)
    (license : LicenseFile) :
    (updateSentinelClock crypto sentinels fingerprint license).license = license := by
  simp only [updateSentinelClock]
  split
  · rfl
  · split <;> rfl

theorem touch_fingerprints (fingerprint : Text) (clock : Instant) (machines : List MachineBinding) :
    (touch fingerprint clock machines).map MachineBinding.machineFingerprint =
      machines.map MachineBinding.machineFingerprint := by
  induction machines with
  | nil => rfl
  | cons machine rest ih =>
      simp only [touch]
      split
      · rfl
      · rw [List.map_cons, List.map_cons, ih]

end Terrasync.Licensing.LicenseFile
