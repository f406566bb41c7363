import Terrasync.Licensing.BindingMessage
import Terrasync.Licensing.LicenseProperties
import Terrasync.Licensing.LicenseSystem

/-! Whether a machine finds its sentinel again. It is written under the file name of its own
id, the short hash of the licence id, and looked for under that of the licence id. -/

set_option autoImplicit false

namespace Terrasync.Licensing

open LicenseFile

variable {crypto : Crypto}

/-- A run of `activate_license` or `verify_license` on the machine that wrote the file. -/
def LicenseFile.Writes (crypto : Crypto) (host : Host) (license : LicenseFile) (saved : Saved) : Prop :=
  (∃ now, license.activateLicense crypto host now = .ok (some saved)) ∨
    ∃ start advanced, license.verifyLicense crypto host start advanced = .ok saved

/-- Every sentinel of the machine carries the short hash and the fingerprint, and lies
under the file name of its id. -/
structure Filed (crypto : Crypto) (licenseId fingerprint : Text) (sentinels : Sentinels) : Prop where
  id : ∀ path data, sentinels path = some data → data.id = crypto.shortHash licenseId
  fp : ∀ path data, sentinels path = some data → data.fp = fingerprint
  path : ∀ path data, sentinels path = some data → path = crypto.sentinelPath (crypto.shortHash licenseId)

/-- The HMAC of every sentinel is that of its own id. -/
def Authentic (crypto : Crypto) (sentinels : Sentinels) : Prop :=
  ∀ path data, sentinels path = some data →
    crypto.computeSentinelHmac data.id data.fp data.ts = data.hm

theorem Filed.write {licenseId fingerprint : Text} {sentinels : Sentinels} {data : SentinelData}
    (filed : Filed crypto licenseId fingerprint sentinels) (id : data.id = crypto.shortHash licenseId)
    (fp : data.fp = fingerprint) : Filed crypto licenseId fingerprint (crypto.writeSentinel sentinels data) := by
  have entry : ∀ path stored, crypto.writeSentinel sentinels data path = some stored →
      (path = crypto.sentinelPath data.id ∧ stored = data) ∨ sentinels path = some stored := by
    intro path stored written
    simp only [Crypto.writeSentinel, Function.update_apply] at written
    split at written
    · next same =>
        cases written
        exact .inl ⟨same, rfl⟩
    · exact .inr written
  refine ⟨?_, ?_, ?_⟩
  · intro path stored written
    obtain ⟨_, rfl⟩ | before := entry path stored written
    · exact id
    · exact filed.id path stored before
  · intro path stored written
    obtain ⟨_, rfl⟩ | before := entry path stored written
    · exact fp
    · exact filed.fp path stored before
  · intro path stored written
    obtain ⟨same, rfl⟩ | before := entry path stored written
    · rw [same, id]
    · exact filed.path path stored before

theorem Authentic.write {sentinels : Sentinels} {data : SentinelData} (authentic : Authentic crypto sentinels)
    (hm : crypto.computeSentinelHmac data.id data.fp data.ts = data.hm) :
    Authentic crypto (crypto.writeSentinel sentinels data) := by
  intro path stored written
  simp only [Crypto.writeSentinel, Function.update_apply] at written
  split at written
  · cases written
    exact hm
  · exact authentic path stored written

/-- What a run writes into the sentinel directory: nothing, or one sentinel with the
machine's data and the clock of the file. -/
structure Leaves (crypto : Crypto) (host : Host) (licenseId : Text) (saved : Saved) (data : SentinelData) :
    Prop where
  stored : saved.sentinels = crypto.writeSentinel host.sentinels data
  written : saved.sentinel = some data
  id : data.id = crypto.shortHash licenseId
  fp : data.fp = host.fingerprint
  clock : saved.license.licenseClock = some data.ck
  hm : crypto.shortHash licenseId = licenseId → Authentic crypto host.sentinels →
    crypto.computeSentinelHmac data.id data.fp data.ts = data.hm

theorem saveActivation_leaves {host : Host} {now clock : Instant} {license : LicenseFile}
    (clocked : license.licenseClock = some clock) :
    ∃ data, Leaves crypto host license.payload.licenseId (saveActivation crypto host now license) data := by
  refine ⟨_, rfl, rfl, rfl, rfl, ?_, fun _ _ => rfl⟩
  simp only [saveActivation, clocked, Option.getD_some]

theorem updateSentinelClock_leaves {host : Host} {clock : Instant} {license : LicenseFile}
    (filed : Filed crypto license.payload.licenseId host.fingerprint host.sentinels)
    (clocked : license.licenseClock = some clock) :
    ∃ data, Leaves crypto host license.payload.licenseId
      (updateSentinelClock crypto host.sentinels (some host.fingerprint) license) data := by
  cases read : crypto.readSentinel host.sentinels license.payload.licenseId with
  | some sentinel =>
      have id := filed.id _ _ read
      have fp := filed.fp _ _ read
      simp only [updateSentinelClock, read, clocked, Option.getD_some]
      exact ⟨_, rfl, rfl, id, fp, clocked, fun _ authentic => authentic _ sentinel read⟩
  | none =>
      simp only [updateSentinelClock, read, clocked]
      refine ⟨_, rfl, rfl, rfl, rfl, clocked, ?_⟩
      intro fixed _
      simp only [fixed]

/-- Every run that writes leaves a sentinel. -/
theorem writes_leaves {host : Host} {license : LicenseFile} {saved : Saved}
    (limited : license.payload.maxMachines ≠ 0)
    (filed : Filed crypto license.payload.licenseId host.fingerprint host.sentinels)
    (writes : license.Writes crypto host saved) :
    saved.license.payload = license.payload ∧
      ∃ data, Leaves crypto host license.payload.licenseId saved data := by
  obtain ⟨now, activated⟩ | ⟨start, advanced, verified⟩ := writes
  · obtain ⟨_, ⟨_, rfl⟩ | ⟨activation, _, _, _, rfl⟩⟩ := activateLicense_ok activated
    · exact ⟨rfl, @saveActivation_leaves crypto host now now (license.sign crypto _ (some now)) rfl⟩
    · exact ⟨rfl, @saveActivation_leaves crypto host now _ (license.sign crypto _ (some _)) rfl⟩
  · obtain ⟨activation, _, _, _, _, rfl⟩ := verifyLicense_ok limited verified
    refine ⟨?_, @updateSentinelClock_leaves crypto host advanced (license.sign crypto _ (some advanced)) filed rfl⟩
    rw [updateSentinelClock_license]
    rfl

namespace LicenseSystem

variable {fingerprint : Nat → Text}

/-- An activated licence as it reaches a machine, which has no sentinel yet. -/
def carried (license : LicenseFile) : LicenseSystem where
  license := license
  sentinels := fun _ _ => none
  issued := []
  added := []
  versions := []

/-- Only the one machine runs, and each verification later than the clock in the file. -/
def OnHost (host : Nat) (system : LicenseSystem) : LicenseAction → Prop
  | .activate other _ => other = host
  | .verify other start _ => other = host ∧ ∀ clock ∈ system.license.licenseClock, clock < start
  | .edit .. => False

/-- A run on the machine that writes the file: an activation that did not find the sentinel,
or a verification whose clock goes forward. -/
structure Run (crypto : Crypto) (host : Host) (license : LicenseFile) (saved : Saved) : Prop where
  writes : license.Writes crypto host saved
  forward : license.sentinelActivated crypto host = true → ∀ clock ∈ license.licenseClock,
    ∃ later, saved.license.licenseClock = some later ∧ clock < later

theorem verify_run {host : Host} {license : LicenseFile} {saved : Saved} {start advanced : Instant}
    (limited : license.payload.maxMachines ≠ 0) (later : ∀ clock ∈ license.licenseClock, clock < start)
    (verified : license.verifyLicense crypto host start advanced = .ok saved) :
    Run crypto host license saved where
  writes := .inr ⟨start, advanced, verified⟩
  forward := by
    intro _ clock member
    obtain ⟨activation, _, _, _, ahead, rfl⟩ := verifyLicense_ok limited verified
    refine ⟨advanced, ?_, Int.lt_of_lt_of_le (later clock member) ahead⟩
    rw [updateSentinelClock_license]
    rfl

/-- A step on the machine changes nothing, or it is a run that wrote. -/
theorem step_cases {host : Nat} {system next : LicenseSystem} {action : LicenseAction}
    (limited : system.license.payload.maxMachines ≠ 0) (alone : OnHost host system action)
    (stepped : (machine crypto fingerprint).step system action = some next) :
    next = system ∨ ∃ saved, Run crypto (system.host fingerprint host) system.license saved ∧
      next.license = saved.license ∧ next.sentinels host = saved.sentinels ∧
      next.versions = saved.license :: system.versions := by
  cases stepped
  cases action with
  | activate other now =>
      obtain rfl : other = host := alone
      simp only [step, activate]
      split
      · next saved activated =>
          refine .inr ⟨saved, ⟨.inl ⟨now, activated⟩, ?_⟩, rfl, Function.update_self _ _ _, rfl⟩
          intro seen
          rw [activateLicense_unseen activated] at seen
          cases seen
      · exact .inl rfl
      · exact .inl rfl
  | verify other start advanced =>
      obtain ⟨rfl, later⟩ := alone
      simp only [step, verify]
      split
      · next saved verified =>
          exact .inr ⟨saved, verify_run limited later verified, rfl, Function.update_self _ _ _, rfl⟩
      · exact .inl rfl
  | edit => cases alone

/-- The sentinels of the machine are its own, under the licence it was given. -/
structure Tended (crypto : Crypto) (fingerprint : Nat → Text) (granted : Payload) (host : Nat)
    (system : LicenseSystem) : Prop where
  payload : system.license.payload = granted
  filed : Filed crypto granted.licenseId (fingerprint host) (system.sentinels host)
  authentic : crypto.shortHash granted.licenseId = granted.licenseId →
    Authentic crypto (system.sentinels host)

theorem Tended.leaves {payload : Payload} {host : Nat} {system : LicenseSystem} {saved : Saved}
    (tended : Tended crypto fingerprint payload host system) (limited : payload.maxMachines ≠ 0)
    (writes : system.license.Writes crypto (system.host fingerprint host) saved) :
    saved.license.payload = payload ∧
      ∃ data, Leaves crypto (system.host fingerprint host) payload.licenseId saved data := by
  obtain ⟨rfl, filed, _⟩ := tended
  exact writes_leaves limited filed writes

theorem Tended.step {payload : Payload} {host : Nat} {system next : LicenseSystem} {action : LicenseAction}
    (limited : payload.maxMachines ≠ 0) (tended : Tended crypto fingerprint payload host system)
    (alone : OnHost host system action)
    (stepped : (machine crypto fingerprint).step system action = some next) :
    Tended crypto fingerprint payload host next := by
  obtain rfl | ⟨saved, run, license, sentinels, _⟩ :=
    step_cases (by rw [tended.payload]; exact limited) alone stepped
  · exact tended
  · obtain ⟨same, data, leaves⟩ := tended.leaves limited run.writes
    refine ⟨?_, ?_, ?_⟩
    · rw [license, same]
    · rw [sentinels, leaves.stored]
      exact tended.filed.write leaves.id leaves.fp
    · intro fixed
      rw [sentinels, leaves.stored]
      exact (tended.authentic fixed).write (leaves.hm fixed (tended.authentic fixed))

/-- The sentinel a run wrote is found again and accepted with the file. -/
def Found (crypto : Crypto) (fingerprint licenseId : Text) (saved : Saved) (data : SentinelData) : Prop :=
  crypto.readSentinel saved.sentinels licenseId = some data ∧
    crypto.verifySentinel data fingerprint saved.license.licenseClock = .ok ()

theorem found_of_leaves {host : Host} {licenseId : Text} {saved : Saved} {data : SentinelData}
    (leaves : Leaves crypto host licenseId saved data) (fixed : crypto.shortHash licenseId = licenseId)
    (authentic : Authentic crypto host.sentinels) : Found crypto host.fingerprint licenseId saved data where
  left := by
    have same : crypto.sentinelPath licenseId = crypto.sentinelPath data.id := by rw [leaves.id, fixed]
    rw [Crypto.readSentinel, leaves.stored, Crypto.writeSentinel, same, Function.update_self]
  right := by
    have hm := leaves.hm fixed authentic
    rw [leaves.fp] at hm
    simp only [Crypto.verifySentinel, leaves.clock, leaves.fp, hm, ne_eq, not_true, if_false, Int.lt_irrefl]

theorem sentinelPath_inj {text text' : Text} (same : crypto.sentinelPath text = crypto.sentinelPath text') :
    crypto.shortHash text = crypto.shortHash text' :=
  List.append_cancel_left (List.append_cancel_right same)

/-- A sentinel is found again exactly when the licence id is its own short hash. -/
theorem Tended.found_iff {payload : Payload} {host : Nat} {system : LicenseSystem} {saved : Saved}
    {data : SentinelData} (limited : payload.maxMachines ≠ 0)
    (noCollision : crypto.shortHash (crypto.shortHash payload.licenseId) = crypto.shortHash payload.licenseId →
      crypto.shortHash payload.licenseId = payload.licenseId)
    (tended : Tended crypto fingerprint payload host system)
    (writes : system.license.Writes crypto (system.host fingerprint host) saved)
    (written : saved.sentinel = some data) :
    Found crypto (fingerprint host) payload.licenseId saved data ↔
      crypto.shortHash payload.licenseId = payload.licenseId := by
  obtain ⟨_, other, leaves⟩ := tended.leaves limited writes
  obtain rfl : other = data := Option.some.inj (leaves.written.symm.trans written)
  constructor
  · rintro ⟨read, _⟩
    have filed := tended.filed.write leaves.id leaves.fp
    rw [leaves.stored] at read
    exact noCollision (sentinelPath_inj (filed.path _ _ read)).symm
  · intro fixed
    exact found_of_leaves leaves fixed (tended.authentic fixed)

/-- Once the program has written the file, the sentinel can be read, has the clock of the
file, and is ahead of every older version. -/
structure Guarded (crypto : Crypto) (granted : Payload) (host : Nat) (system : LicenseSystem) : Prop where
  newest : ∀ version ∈ system.versions.head?, version = system.license
  payload : ∀ version ∈ system.versions, version.payload = granted
  ahead : system.versions ≠ [] → ∃ data,
    crypto.readSentinel (system.sentinels host) granted.licenseId = some data ∧
      system.license.licenseClock = some data.ck ∧
      ∀ old ∈ system.versions.tail, ∃ clock, old.licenseClock = some clock ∧ clock < data.ck

theorem Tended.sentinelActivated {granted : Payload} {host : Nat} {system : LicenseSystem}
    {data : SentinelData} (tended : Tended crypto fingerprint granted host system)
    (read : crypto.readSentinel (system.sentinels host) granted.licenseId = some data) :
    system.license.sentinelActivated crypto (system.host fingerprint host) = true := by
  have id := tended.filed.id _ _ read
  have fp := tended.filed.fp _ _ read
  simp only [LicenseFile.sentinelActivated, LicenseSystem.host, tended.payload, read]
  exact decide_eq_true ⟨fp, id⟩

theorem Guarded.step {granted : Payload} {host : Nat} {system next : LicenseSystem} {action : LicenseAction}
    (limited : granted.maxMachines ≠ 0) (fixed : crypto.shortHash granted.licenseId = granted.licenseId)
    (tended : Tended crypto fingerprint granted host system) (guarded : Guarded crypto granted host system)
    (alone : OnHost host system action)
    (stepped : (machine crypto fingerprint).step system action = some next) :
    Guarded crypto granted host next := by
  obtain rfl | ⟨saved, run, license, sentinels, versions⟩ :=
    step_cases (by rw [tended.payload]; exact limited) alone stepped
  · exact guarded
  · obtain ⟨payload, data, leaves⟩ := tended.leaves limited run.writes
    refine ⟨?_, ?_, fun _ => ⟨data, ?_, ?_, ?_⟩⟩
    · rw [versions, license]
      rintro version ⟨⟩
      rfl
    · rw [versions]
      intro version member
      obtain rfl | earlier := List.mem_cons.mp member
      · exact payload
      · exact guarded.payload version earlier
    · rw [sentinels]
      exact (found_of_leaves leaves fixed (tended.authentic fixed)).1
    · rw [license]
      exact leaves.clock
    · rw [versions, List.tail_cons]
      intro old member
      obtain ⟨before, read, clocked, older⟩ := guarded.ahead (List.ne_nil_of_mem member)
      obtain ⟨later, advanced, forward⟩ :=
        run.forward (tended.sentinelActivated read) before.ck (by rw [clocked]; rfl)
      rw [leaves.clock] at advanced
      cases advanced
      cases written : system.versions with
      | nil =>
          rw [written] at member
          exact absurd member List.not_mem_nil
      | cons version rest =>
          rw [written] at member older
          obtain rfl | earlier := List.mem_cons.mp member
          · rw [guarded.newest old (by rw [written]; rfl)]
            exact ⟨before.ck, clocked, forward⟩
          · obtain ⟨clock, old, behind⟩ := older old earlier
            exact ⟨clock, old, Int.lt_trans behind forward⟩

/-- The machine notices when an older version of the file is put back. -/
def NoticesRestored (crypto : Crypto) (fingerprint : Nat → Text) (host : Nat) (system : LicenseSystem) : Prop :=
  ∀ old ∈ system.versions.tail, ∀ start advanced saved,
    old.verifyLicense crypto (system.host fingerprint host) start advanced ≠ .ok saved

theorem Guarded.noticesRestored {granted : Payload} {host : Nat} {system : LicenseSystem}
    (limited : granted.maxMachines ≠ 0) (guarded : Guarded crypto granted host system) :
    NoticesRestored crypto fingerprint host system := by
  intro old member start advanced saved verified
  have payload : old.payload = granted := guarded.payload old (List.mem_of_mem_tail member)
  obtain ⟨data, read, _, older⟩ := guarded.ahead (fun empty => by
    rw [empty] at member
    exact absurd member List.not_mem_nil)
  obtain ⟨clock, clocked, behind⟩ := older old member
  obtain ⟨activation, _, _, checked, _⟩ := verifyLicense_ok (by rw [payload]; exact limited) verified
  obtain ⟨_, _, _, accepts⟩ := checkBinding_ok checked
  have accepted := accepts data (by rw [payload]; exact read)
  simp only [Crypto.verifySentinel, clocked, if_pos behind] at accepted
  split at accepted
  · cases accepted
  · split at accepted <;> cases accepted

theorem run_tended {license : LicenseFile} {host : Nat} {actions : List LicenseAction} {final : LicenseSystem}
    (limited : license.payload.maxMachines ≠ 0)
    (alone : (machine crypto fingerprint).Along (OnHost host) (carried license) actions)
    (run : (machine crypto fingerprint).exec (carried license) actions = some final) :
    Tended crypto fingerprint license.payload host final := by
  have empty : ∀ path data, (carried license).sentinels host path ≠ some data :=
    fun _ data => (Option.some_ne_none data).symm
  have initial : Tended crypto fingerprint license.payload host (carried license) :=
    ⟨rfl, ⟨fun path data stored => absurd stored (empty path data),
      fun path data stored => absurd stored (empty path data),
      fun path data stored => absurd stored (empty path data)⟩,
      fun _ path data stored => absurd stored (empty path data)⟩
  exact Lib.Machine.exec_invariant_along
    (fun tended allowed stepped => Tended.step limited tended allowed stepped) initial alone run

theorem run_guarded {license : LicenseFile} {host : Nat} {actions : List LicenseAction} {final : LicenseSystem}
    (limited : license.payload.maxMachines ≠ 0)
    (fixed : crypto.shortHash license.payload.licenseId = license.payload.licenseId)
    (alone : (machine crypto fingerprint).Along (OnHost host) (carried license) actions)
    (run : (machine crypto fingerprint).exec (carried license) actions = some final) :
    Guarded crypto license.payload host final := by
  have preserved : ∀ {system action next},
      Tended crypto fingerprint license.payload host system ∧ Guarded crypto license.payload host system →
      OnHost host system action → (machine crypto fingerprint).step system action = some next →
      Tended crypto fingerprint license.payload host next ∧ Guarded crypto license.payload host next :=
    fun both allowed stepped =>
      ⟨both.1.step limited allowed stepped, both.2.step limited fixed both.1 allowed stepped⟩
  have initial : Guarded crypto license.payload host (carried license) :=
    ⟨fun _ member => absurd member (Option.not_mem_none _), fun _ member => absurd member List.not_mem_nil,
      fun written => absurd rfl written⟩
  have start : Tended crypto fingerprint license.payload host (carried license) :=
    @run_tended crypto fingerprint license host [] _ limited trivial rfl
  exact (Lib.Machine.exec_invariant_along preserved ⟨start, initial⟩ alone run).2

/-- In every run on one machine: a sentinel that was written is found again and accepted
exactly when the licence id is its own short hash, and then a restored file is noticed. -/
theorem sentinel_guards_iff {license : LicenseFile} {host : Nat} {actions : List LicenseAction}
    {final : LicenseSystem} (limited : license.payload.maxMachines ≠ 0)
    (noCollision : crypto.shortHash (crypto.shortHash license.payload.licenseId) =
      crypto.shortHash license.payload.licenseId →
      crypto.shortHash license.payload.licenseId = license.payload.licenseId)
    (alone : (machine crypto fingerprint).Along (OnHost host) (carried license) actions)
    (run : (machine crypto fingerprint).exec (carried license) actions = some final) :
    (∀ saved data, final.license.Writes crypto (final.host fingerprint host) saved →
      saved.sentinel = some data →
      (Found crypto (fingerprint host) license.payload.licenseId saved data ↔
        crypto.shortHash license.payload.licenseId = license.payload.licenseId)) ∧
      (crypto.shortHash license.payload.licenseId = license.payload.licenseId →
        NoticesRestored crypto fingerprint host final) :=
  ⟨fun _ _ writes written =>
      (run_tended limited alone run).found_iff limited noCollision writes written,
    fun fixed => (run_guarded limited fixed alone run).noticesRestored limited⟩

def singleLicense (licenseId : Text) : LicenseFile where
  payload :=
    { licenseId, licensee := [], issuedAt := 0, expiresAt := none
      activationWindowDays := 7, maxMachines := 1 }
  signature := ['s']
  activation := none
  licenseClock := none

def machineName (host : Nat) : Text := ['m', digit host]

/-- The licence is activated and then verified. -/
def verifiedRun : List LicenseAction := [.activate 0 (second 1), .verify 0 (second 2) (second 2)]

instance (host : Nat) (system : LicenseSystem) (action : LicenseAction) : Decidable (OnHost host system action) := by
  unfold OnHost
  split <;> infer_instance

/-- A licence id that is its own short hash. -/
theorem sentinel_guards_iff_own_hash :
    ∃ final, (machine sampleCrypto machineName).exec
        (carried (singleLicense (List.replicate 16 'a'))) verifiedRun = some final ∧
      final.versions.length = 2 ∧ NoticesRestored sampleCrypto machineName 0 final := by
  refine ⟨_, rfl, rfl, ?_⟩
  exact (@sentinel_guards_iff sampleCrypto machineName (singleLicense (List.replicate 16 'a')) 0 verifiedRun _
    (by decide) (fun _ => by decide) (by decide +kernel) rfl).2 (by decide)

/-- A generated id. -/
def generatedId : Text := "1b4e28ba-2fa1-41d2-883f-0016d3cca427".toList

/-- The sentinel that the last verification wrote is not found, and the file as it was
activated passes again. -/
theorem restored_file_accepted :
    ∃ final old saved data, (machine sampleCrypto machineName).exec
        (carried (singleLicense generatedId)) verifiedRun = some final ∧
      old ∈ final.versions.tail ∧
      old.verifyLicense sampleCrypto (final.host machineName 0) (second 3) (second 3) = .ok saved ∧
      saved.sentinel = some data ∧
      sampleCrypto.readSentinel saved.sentinels generatedId = none := by
  refine ⟨_, _, _, _, rfl, List.mem_cons_self, rfl, rfl, ?_⟩
  decide +kernel

end LicenseSystem

end Terrasync.Licensing
