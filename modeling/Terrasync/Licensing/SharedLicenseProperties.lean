import Terrasync.Licensing.SentinelLookup
import Terrasync.Licensing.SharedLicense

/-! A machine on which the licence was activated is never locked out while nobody edits the file,
wherever the runs break off. -/

set_option autoImplicit false

namespace Terrasync.Licensing

open LicenseFile

variable {crypto : Crypto}

/-! ### Versions of the file -/

namespace LicenseFile

theorem lists_iff {fingerprint : Text} {machines : List MachineBinding} :
    lists fingerprint machines = true ↔ fingerprint ∈ machines.map MachineBinding.machineFingerprint := by
  simp [lists]

theorem machines_of_activation {license : LicenseFile} {activation : Activation}
    (activated : license.activation = some activation) : license.machines = activation.machines := by
  rw [machines, activated]
  rfl

theorem Listed.activation {fingerprint : Text} {license : LicenseFile} (listed : license.Listed fingerprint) :
    ∃ activation, license.activation = some activation ∧ lists fingerprint activation.machines = true := by
  cases activated : license.activation with
  | none =>
      rw [Listed, machines, activated] at listed
      exact absurd listed List.not_mem_nil
  | some activation =>
      rw [Listed, machines_of_activation activated] at listed
      exact ⟨activation, rfl, lists_iff.mpr listed⟩

theorem Advances.refl (license : LicenseFile) : license.Advances license :=
  ⟨fun clock same => ⟨clock, same, Int.le_refl _⟩, fun _ machine same => ⟨machine, same, rfl, Int.le_refl _⟩⟩

theorem Advances.trans {first second third : LicenseFile} (earlier : first.Advances second)
    (later : second.Advances third) : first.Advances third := by
  refine ⟨fun clock same => ?_, fun place machine same => ?_⟩
  · obtain ⟨next, found, ahead⟩ := earlier.clock clock same
    obtain ⟨last, found, further⟩ := later.clock next found
    exact ⟨last, found, Int.le_trans ahead further⟩
  · obtain ⟨next, found, name, ahead⟩ := earlier.machines place machine same
    obtain ⟨last, found, again, further⟩ := later.machines place next found
    exact ⟨last, found, again.trans name, Int.le_trans ahead further⟩

theorem Advances.listed {earlier later : LicenseFile} (advances : earlier.Advances later) {fingerprint : Text}
    (listed : earlier.Listed fingerprint) : later.Listed fingerprint := by
  obtain ⟨machine, member, name⟩ := List.mem_map.mp listed
  obtain ⟨place, found⟩ := List.mem_iff_getElem?.mp member
  obtain ⟨next, found, same, _⟩ := advances.machines place machine found
  exact List.mem_map.mpr ⟨next, List.mem_of_getElem? found, same.trans name⟩

theorem touch_getElem? (fingerprint : Text) {clock : Instant} {machines : List MachineBinding}
    (past : ∀ machine ∈ machines, machine.lastVerified ≤ clock) (place : Nat) (machine : MachineBinding)
    (found : machines[place]? = some machine) :
    ∃ next, (touch fingerprint clock machines)[place]? = some next ∧
      next.machineFingerprint = machine.machineFingerprint ∧ machine.lastVerified ≤ next.lastVerified := by
  induction machines generalizing place with
  | nil => cases found
  | cons first rest ih =>
      obtain ⟨now, before⟩ := List.forall_mem_cons.mp past
      unfold touch
      split
      · cases place with
        | zero =>
            cases found
            exact ⟨_, rfl, rfl, now⟩
        | succ place => exact ⟨machine, found, rfl, Int.le_refl _⟩
      · cases place with
        | zero =>
            cases found
            exact ⟨_, rfl, rfl, Int.le_refl _⟩
        | succ place => exact ih before place found

theorem touch_past (fingerprint : Text) {clock time : Instant} {machines : List MachineBinding}
    (now : clock ≤ time) (past : ∀ machine ∈ machines, machine.lastVerified ≤ time) :
    ∀ machine ∈ touch fingerprint clock machines, machine.lastVerified ≤ time := by
  induction machines with
  | nil => exact past
  | cons first rest ih =>
      obtain ⟨here, before⟩ := List.forall_mem_cons.mp past
      unfold touch
      split
      · exact List.forall_mem_cons.mpr ⟨now, before⟩
      · exact List.forall_mem_cons.mpr ⟨here, ih before⟩

/-- The granted licence in a version that every machine it lists accepts from `time` on. -/
structure Consistent (crypto : Crypto) (granted : LicenseFile) (time : Instant) (license : LicenseFile) :
    Prop where
  payload : license.payload = granted.payload
  signature : license.signature = granted.signature
  bound : ∀ activation, license.activation = some activation → license.bindingHmacMatches crypto activation
  clock : ∀ clock, license.licenseClock = some clock → clock ≤ time
  past : ∀ machine ∈ license.machines, machine.lastVerified ≤ time

variable {granted license : LicenseFile} {time : Instant}

theorem Issued.consistent (issued : license.Issued crypto time) : Consistent crypto license time license where
  payload := rfl
  signature := rfl
  bound := fun activation activated => .inr (issued.bound activation activated)
  clock := fun clock same => by
    rw [issued.clock] at same
    cases same
  past := issued.past

theorem Consistent.mono (consistent : Consistent crypto granted time license) {later : Instant}
    (ahead : time ≤ later) : Consistent crypto granted later license where
  payload := consistent.payload
  signature := consistent.signature
  bound := consistent.bound
  clock := fun clock same => Int.le_trans (consistent.clock clock same) ahead
  past := fun machine member => Int.le_trans (consistent.past machine member) ahead

/-- A version that is signed for a new list and clock. -/
theorem Consistent.sign (consistent : Consistent crypto granted time license) {machines : List MachineBinding}
    {clock : Instant} (now : clock ≤ time) (past : ∀ machine ∈ machines, machine.lastVerified ≤ time) :
    Consistent crypto granted time (license.sign crypto machines (some clock)) where
  payload := consistent.payload
  signature := consistent.signature
  bound := fun activation activated => by
    cases activated
    exact .inl rfl
  clock := fun _ same => by
    cases same
    exact now
  past := past

theorem Consistent.startClock (consistent : Consistent crypto granted time license) {now : Instant}
    (ahead : time ≤ now) : license.startClock now = .ok now := by
  unfold LicenseFile.startClock
  split
  · rename_i persisted same
    exact if_neg (Int.not_lt.mpr (Int.le_trans (consistent.clock persisted same) ahead))
  · rfl

theorem Unexpired.checkExpiry {now : Instant} (unexpired : license.Unexpired now) :
    license.checkExpiry crypto now = .ok () := by
  unfold LicenseFile.checkExpiry
  split
  · rfl
  · rename_i expiresAt same
    exact if_neg (Int.not_lt.mpr (unexpired expiresAt same))

theorem Consistent.quickVerify (consistent : Consistent crypto granted time license)
    (signed : crypto.verifySignature granted.payload granted.signature = true) {fingerprint : Text}
    (listed : license.Listed fingerprint) {now : Instant} (ahead : time ≤ now)
    (unexpired : license.Unexpired now) : license.quickVerify crypto fingerprint now = .ok () := by
  obtain ⟨activation, activated, lists⟩ := listed.activation
  rw [← consistent.payload, ← consistent.signature] at signed
  rw [LicenseFile.quickVerify, signed, if_neg (by decide)]
  refine Lib.bind_eq_ok.mpr ⟨now, consistent.startClock ahead, Lib.bind_eq_ok.mpr ⟨(), unexpired.checkExpiry, ?_⟩⟩
  split
  · rfl
  · simp only [activated, lists, consistent.bound activation activated, not_true, if_false, Bool.true_eq_false]

end LicenseFile

/-! ### The sentinels of a machine -/

/-- The sentinels of a machine are its own and authentic, none is ahead of the file, and the file
lists a machine that has one. -/
structure Behind (crypto : Crypto) (fingerprint : Text) (license : LicenseFile) (sentinels : Sentinels) :
    Prop where
  filed : Filed crypto license.payload.licenseId fingerprint sentinels
  authentic : crypto.shortHash license.payload.licenseId = license.payload.licenseId →
    Authentic crypto sentinels
  behind : ∀ path data, sentinels path = some data →
    ∃ clock, license.licenseClock = some clock ∧ data.ck ≤ clock
  listed : ∀ path data, sentinels path = some data → license.Listed fingerprint

theorem behind_empty (crypto : Crypto) (fingerprint : Text) (license : LicenseFile) :
    Behind crypto fingerprint license fun _ => none :=
  ⟨⟨nofun, nofun, nofun⟩, fun _ => nofun, nofun, nofun⟩

/-- The truncated hash does not run the licence id together with its own hash. -/
def NoCollision (crypto : Crypto) (licenseId : Text) : Prop :=
  crypto.shortHash (crypto.shortHash licenseId) = crypto.shortHash licenseId →
    crypto.shortHash licenseId = licenseId

instance (crypto : Crypto) (licenseId : Text) : Decidable (NoCollision crypto licenseId) :=
  inferInstanceAs (Decidable (_ → _))

section

variable {fingerprint : Text} {license later : LicenseFile} {sentinels : Sentinels}

theorem Behind.advance (before : Behind crypto fingerprint license sentinels)
    (same : later.payload = license.payload) (advances : license.Advances later) :
    Behind crypto fingerprint later sentinels := by
  refine ⟨?_, ?_, fun path data stored => ?_, fun path data stored => ?_⟩
  · rw [same]
    exact before.filed
  · rw [same]
    exact before.authentic
  · obtain ⟨clock, clocked, behind⟩ := before.behind path data stored
    obtain ⟨next, clocked, ahead⟩ := advances.clock clock clocked
    exact ⟨next, clocked, Int.le_trans behind ahead⟩
  · exact advances.listed (before.listed path data stored)

theorem Behind.write (before : Behind crypto fingerprint license sentinels) {data : SentinelData}
    (id : data.id = crypto.shortHash license.payload.licenseId) (fp : data.fp = fingerprint)
    (clocked : license.licenseClock = some data.ck)
    (hm : crypto.shortHash license.payload.licenseId = license.payload.licenseId →
      crypto.computeSentinelHmac data.id data.fp data.ts = data.hm)
    (listed : license.Listed fingerprint) :
    Behind crypto fingerprint license (crypto.writeSentinel sentinels data) := by
  refine ⟨before.filed.write id fp, fun fixed => (before.authentic fixed).write (hm fixed),
    fun path stored written => ?_, fun _ _ _ => listed⟩
  simp only [Crypto.writeSentinel, Function.update_apply] at written
  split at written
  · cases written
    exact ⟨_, clocked, Int.le_refl _⟩
  · exact before.behind path stored written

theorem Behind.accepted (before : Behind crypto fingerprint license sentinels)
    (noCollision : NoCollision crypto license.payload.licenseId) {sentinel : SentinelData}
    (read : crypto.readSentinel sentinels license.payload.licenseId = some sentinel) :
    crypto.verifySentinel sentinel fingerprint license.licenseClock = .ok () := by
  have fixed := noCollision (LicenseSystem.sentinelPath_inj (before.filed.path _ _ read)).symm
  obtain ⟨clock, clocked, behind⟩ := before.behind _ _ read
  unfold Crypto.verifySentinel
  rw [if_neg (not_not.mpr (before.authentic fixed _ _ read)),
    if_neg (not_not.mpr (before.filed.fp _ _ read)), clocked]
  exact if_neg (Int.not_lt.mpr behind)

theorem Behind.verifyLicense {granted : LicenseFile} {time : Instant}
    (before : Behind crypto fingerprint license sentinels) (consistent : Consistent crypto granted time license)
    (signed : crypto.verifySignature granted.payload granted.signature = true)
    (limited : 0 < granted.payload.maxMachines) (noCollision : NoCollision crypto license.payload.licenseId)
    (listed : license.Listed fingerprint) {start advanced : Instant} (ahead : time ≤ start)
    (forward : start ≤ advanced) (unexpired : license.Unexpired start) :
    ∃ saved, license.verifyLicense crypto ⟨fingerprint, sentinels⟩ start advanced = .ok saved := by
  obtain ⟨activation, activated, lists⟩ := listed.activation
  have checked : license.checkBinding crypto ⟨fingerprint, sentinels⟩ start activation = .ok () := by
    rw [checkBinding, if_neg (not_not.mpr (consistent.bound activation activated))]
    refine Lib.bind_eq_ok.mpr ⟨(), unexpired.checkExpiry, ?_⟩
    simp only [lists, Bool.true_eq_false, if_false]
    split
    · rename_i sentinel read
      exact before.accepted noCollision read
    · rfl
  have positive : license.payload.maxMachines ≠ 0 := by
    rw [consistent.payload]
    exact Nat.pos_iff_ne_zero.mp limited
  rw [← consistent.payload, ← consistent.signature] at signed
  rw [LicenseFile.verifyLicense, signed, if_neg (by decide)]
  refine Lib.bind_succeeds (consistent.startClock ahead) ?_
  simp only [if_neg positive, activated]
  refine Lib.bind_succeeds checked (Lib.bind_succeeds (if_neg (Int.not_lt.mpr forward)) ⟨_, rfl⟩)

end

/-! ### Runs -/

/-- What one run writes. -/
structure Renews (crypto : Crypto) (host : Host) (granted : LicenseFile) (time : Instant) (license : LicenseFile)
    (saved : Saved) : Prop where
  consistent : Consistent crypto granted time saved.license
  advances : license.Advances saved.license
  listed : saved.license.Listed host.fingerprint
  leaves : ∃ data, Leaves crypto host license.payload.licenseId saved data

section

variable {granted license : LicenseFile} {host : Host} {now : Instant}

theorem activateLicense_none (limited : license.payload.maxMachines ≠ 0)
    (before : Behind crypto host.fingerprint license host.sentinels)
    (activated : license.activateLicense crypto host now = .ok none) : license.Listed host.fingerprint := by
  simp only [activateLicense, if_neg limited] at activated
  split at activated
  · cases activated
  split at activated
  · cases activated
  split at activated
  · rename_i seen
    simp only [sentinelActivated] at seen
    split at seen
    · rename_i sentinel read
      exact before.listed _ _ read
    · cases seen
  · split at activated
    · cases activated
    · rename_i activation existing
      obtain ⟨added, adds, saves⟩ := Lib.bind_eq_ok.mp activated
      simp only [addMachine] at adds
      split at adds
      · cases adds
      split at adds
      · rename_i listed
        rw [Listed, machines_of_activation existing]
        exact lists_iff.mp listed
      split at adds
      · cases adds
      · cases adds
        cases saves

theorem activateLicense_renews (consistent : Consistent crypto granted now license)
    (before : Behind crypto host.fingerprint license host.sentinels) {saved : Saved}
    (activated : license.activateLicense crypto host now = .ok (some saved)) :
    Renews crypto host granted now license saved := by
  obtain ⟨limited, written⟩ := activateLicense_ok activated
  have leaves := (writes_leaves limited before.filed (.inl ⟨now, activated⟩)).2
  obtain ⟨fresh, rfl⟩ | ⟨activation, existing, _, _, rfl⟩ := written
  · refine ⟨consistent.sign (Int.le_refl _) (List.forall_mem_singleton.mpr (Int.le_refl _)),
      ⟨fun clock same => ⟨now, rfl, consistent.clock clock same⟩, fun place machine found => ?_⟩,
      List.mem_singleton_self _, leaves⟩
    rw [machines, fresh] at found
    cases found
  · have same := machines_of_activation existing
    have later : license.licenseClock.getD now ≤ now := by
      cases clocked : license.licenseClock with
      | none => exact Int.le_refl _
      | some clock => exact consistent.clock clock clocked
    refine ⟨consistent.sign later (List.forall_mem_append.mpr ⟨?_, List.forall_mem_singleton.mpr (Int.le_refl _)⟩),
      ⟨fun clock clocked => ⟨clock, ?_, Int.le_refl _⟩, fun place machine found =>
        ⟨machine, ?_, rfl, Int.le_refl _⟩⟩, ?_, leaves⟩
    · rw [← same]
      exact consistent.past
    · simp only [saveActivation, sign, clocked, Option.getD_some]
    · rw [same] at found
      exact List.getElem?_append_left (List.getElem?_eq_some_iff.mp found).1 |>.trans found
    · exact List.mem_map_of_mem (List.mem_append_right _ (List.mem_singleton_self _))

theorem verifyLicense_renews {start advanced : Instant} (consistent : Consistent crypto granted advanced license)
    (before : Behind crypto host.fingerprint license host.sentinels) (limited : license.payload.maxMachines ≠ 0)
    {saved : Saved} (verified : license.verifyLicense crypto host start advanced = .ok saved) :
    Renews crypto host granted advanced license saved := by
  have leaves := (writes_leaves limited before.filed (.inr ⟨start, advanced, verified⟩)).2
  obtain ⟨activation, activated, _, checked, _, rfl⟩ := verifyLicense_ok limited verified
  have listed := (checkBinding_ok checked).2.2.1
  have same := machines_of_activation activated
  have past := consistent.past
  rw [same] at past
  refine ⟨?_, ⟨fun clock clocked => ⟨advanced, ?_, consistent.clock clock clocked⟩, fun place machine found => ?_⟩,
    ?_, leaves⟩
  · rw [updateSentinelClock_license]
    exact consistent.sign (Int.le_refl _) (touch_past _ (Int.le_refl _) past)
  · rw [updateSentinelClock_license]
    rfl
  · rw [updateSentinelClock_license]
    rw [same] at found
    exact touch_getElem? _ past place machine found
  · rw [updateSentinelClock_license]
    rw [lists_iff, ← touch_fingerprints host.fingerprint advanced] at listed
    exact listed

end

namespace SharedLicense

variable {fingerprint : Nat → Text} {granted : LicenseFile}

structure Sound (crypto : Crypto) (fingerprint : Nat → Text) (granted : LicenseFile) (shared : SharedLicense) :
    Prop where
  consistent : Consistent crypto granted shared.time shared.license
  sentinels : ∀ host, Behind crypto (fingerprint host) shared.license (shared.sentinels host)
  activated : ∀ host ∈ shared.activated, shared.license.Listed (fingerprint host)
  loaded : ∀ host, ∀ license ∈ shared.loaded host,
    Consistent crypto granted shared.time license ∧ license.Listed (fingerprint host)
  versions : ∀ version ∈ shared.versions, version.Advances shared.license
  forward : shared.versions.Pairwise fun later earlier => earlier.Advances later

theorem Sound.wait {shared : SharedLicense} (sound : Sound crypto fingerprint granted shared) {now : Instant}
    (ahead : shared.time ≤ now) : Sound crypto fingerprint granted { shared with time := now } where
  consistent := sound.consistent.mono ahead
  sentinels := sound.sentinels
  activated := sound.activated
  loaded := fun host license member =>
    ⟨(sound.loaded host license member).1.mono ahead, (sound.loaded host license member).2⟩
  versions := sound.versions
  forward := sound.forward

/-- The file has been replaced, and perhaps the sentinel of the machine. -/
theorem Sound.replace {shared : SharedLicense} (sound : Sound crypto fingerprint granted shared) {host : Nat}
    {saved : Saved} (renews : Renews crypto (shared.host fingerprint host) granted shared.time shared.license saved)
    {sentinels : Nat → Sentinels}
    (written : ∀ other, Behind crypto (fingerprint other) saved.license (sentinels other)) :
    Sound crypto fingerprint granted { shared with
      license := saved.license, sentinels, versions := saved.license :: shared.versions } := by
  have older : ∀ version ∈ shared.versions, version.Advances saved.license := fun version member =>
    (sound.versions version member).trans renews.advances
  exact ⟨renews.consistent, written, fun other member => renews.advances.listed (sound.activated other member),
    sound.loaded, List.forall_mem_cons.mpr ⟨.refl _, older⟩, List.pairwise_cons.mpr ⟨older, sound.forward⟩⟩

theorem Sound.write {shared : SharedLicense} (sound : Sound crypto fingerprint granted shared) {host : Nat}
    {saved : Saved} (renews : Renews crypto (shared.host fingerprint host) granted shared.time shared.license saved)
    (crash : Option Crash) : Sound crypto fingerprint granted (shared.write host saved crash) := by
  have same : saved.license.payload = shared.license.payload :=
    renews.consistent.payload.trans sound.consistent.payload.symm
  have kept : ∀ other, Behind crypto (fingerprint other) saved.license (shared.sentinels other) := fun other =>
    (sound.sentinels other).advance same renews.advances
  have both : ∀ other, Behind crypto (fingerprint other) saved.license
      (Function.update shared.sentinels host saved.sentinels other) := by
    intro other
    obtain rfl | different := eq_or_ne other host
    · obtain ⟨data, leaves⟩ := renews.leaves
      rw [Function.update_self, leaves.stored]
      refine (kept other).write (by rw [same]; exact leaves.id) leaves.fp leaves.clock (fun fixed => ?_)
        renews.listed
      rw [same] at fixed
      exact leaves.hm fixed ((sound.sentinels other).authentic fixed)
    · rw [Function.update_of_ne different]
      exact kept other
  cases crash with
  | none => exact sound.replace renews both
  | some crash =>
      cases crash with
      | beforeWrites => exact sound
      | betweenWrites => exact sound.replace renews kept
      | afterWrites => exact sound.replace renews both

theorem Sound.activate {shared : SharedLicense} (sound : Sound crypto fingerprint granted shared)
    (limited : 0 < granted.payload.maxMachines) (host : Nat) (crash : Option Crash) :
    Sound crypto fingerprint granted (shared.activate crypto fingerprint host shared.time crash) := by
  have positive : shared.license.payload.maxMachines ≠ 0 := by
    rw [sound.consistent.payload]
    exact Nat.pos_iff_ne_zero.mp limited
  have record : ∀ {written : SharedLicense}, Sound crypto fingerprint granted written →
      written.license.Listed (fingerprint host) →
      Sound crypto fingerprint granted { written with activated := host :: written.activated } :=
    fun kept listed => ⟨kept.consistent, kept.sentinels, List.forall_mem_cons.mpr ⟨listed, kept.activated⟩,
      kept.loaded, kept.versions, kept.forward⟩
  unfold SharedLicense.activate
  split
  · exact sound
  · rename_i saved activated
    cases saved with
    | none =>
        have listed := activateLicense_none positive (sound.sentinels host) activated
        dsimp only [Option.elim_none]
        split
        · exact record sound listed
        · exact sound
    | some saved =>
        have renews := activateLicense_renews sound.consistent (sound.sentinels host) activated
        have kept := sound.write renews crash
        dsimp only [Option.elim_some]
        split
        · rename_i finished
          cases finished
          exact record kept renews.listed
        · exact kept

theorem Sound.verify {shared : SharedLicense} (sound : Sound crypto fingerprint granted shared)
    (limited : 0 < granted.payload.maxMachines) (host : Nat) (start : Instant) (crash : Option Crash) :
    Sound crypto fingerprint granted (shared.verify crypto fingerprint host start shared.time crash) := by
  have positive : shared.license.payload.maxMachines ≠ 0 := by
    rw [sound.consistent.payload]
    exact Nat.pos_iff_ne_zero.mp limited
  unfold SharedLicense.verify
  split
  · exact sound
  · rename_i saved verified
    have renews := verifyLicense_renews sound.consistent (sound.sentinels host) positive verified
    have kept := sound.write renews crash
    dsimp only
    split
    · rename_i finished
      cases finished
      refine ⟨kept.consistent, kept.sentinels, kept.activated, fun other => ?_, kept.versions, kept.forward⟩
      dsimp only
      obtain rfl | different := eq_or_ne other host
      · rw [Function.update_self]
        exact List.forall_mem_cons.mpr ⟨⟨renews.consistent, renews.listed⟩, kept.loaded other⟩
      · rw [Function.update_of_ne different]
        exact kept.loaded other
    · exact kept

theorem Sound.step {shared next : SharedLicense} {action : SharedAction}
    (limited : 0 < granted.payload.maxMachines) (sound : Sound crypto fingerprint granted shared)
    (stepped : (machine crypto fingerprint).step shared action = some next) :
    Sound crypto fingerprint granted next := by
  cases action with
  | activate host now crash =>
      obtain ⟨ahead, same⟩ := Option.ite_none_right_eq_some.mp stepped
      cases same
      exact (sound.wait ahead).activate limited host crash
  | verify host start advanced crash =>
      obtain ⟨⟨ahead, forward⟩, same⟩ := Option.ite_none_right_eq_some.mp stepped
      cases same
      exact (sound.wait (Int.le_trans ahead forward)).verify limited host start crash
  | quick host now =>
      obtain ⟨ahead, same⟩ := Option.ite_none_right_eq_some.mp stepped
      cases same
      exact sound.wait ahead

theorem sound_handedOut {license : LicenseFile} {time : Instant} (issued : license.Issued crypto time) :
    Sound crypto fingerprint license (handedOut license time) where
  consistent := issued.consistent
  sentinels := fun host => behind_empty crypto (fingerprint host) license
  activated := nofun
  loaded := nofun
  versions := List.forall_mem_singleton.mpr (.refl _)
  forward := List.pairwise_singleton ..

theorem Sound.neverLockedOut {shared : SharedLicense} (sound : Sound crypto fingerprint granted shared)
    (signed : crypto.verifySignature granted.payload granted.signature = true)
    (limited : 0 < granted.payload.maxMachines) (noCollision : NoCollision crypto granted.payload.licenseId) :
    NeverLockedOut crypto fingerprint shared := by
  refine ⟨fun host member start advanced ahead forward unexpired => ?_,
    fun host member now ahead unexpired license kept => ?_, sound.forward⟩
  · refine (sound.sentinels host).verifyLicense sound.consistent signed limited ?_ (sound.activated host member)
      ahead forward unexpired
    rw [sound.consistent.payload]
    exact noCollision
  · obtain rfl | kept := List.mem_cons.mp kept
    · exact sound.consistent.quickVerify signed (sound.activated host member) ahead unexpired
    · obtain ⟨consistent, listed⟩ := sound.loaded host license kept
      refine consistent.quickVerify signed listed ahead ?_
      rw [Unexpired, consistent.payload, ← sound.consistent.payload]
      exact unexpired

/-- In every run on any number of machines. -/
theorem honest_licensee_never_locked_out {license : LicenseFile} {time : Instant} {actions : List SharedAction}
    {final : SharedLicense} (noCollision : NoCollision crypto license.payload.licenseId)
    (issued : license.Issued crypto time)
    (run : (machine crypto fingerprint).exec (handedOut license time) actions = some final) :
    NeverLockedOut crypto fingerprint final :=
  Sound.neverLockedOut (Lib.Machine.exec_invariant (Sound.step issued.limited) (sound_handedOut issued) run)
    issued.signed issued.limited noCollision

def twoMachines : LicenseFile where
  payload :=
    { licenseId := ['l', '1'], licensee := [], issuedAt := 0, expiresAt := some (second 9)
      activationWindowDays := 7, maxMachines := 2 }
  signature := ['s']
  activation := none
  licenseClock := none

/-- The second machine's activation breaks off behind the licence file and is repeated; so does a
verification of the first. -/
def crashedRun : List SharedAction :=
  [.activate 0 (second 1) none, .activate 1 (second 2) (some .betweenWrites), .activate 1 (second 3) none,
    .verify 0 (second 3) (second 4) (some .betweenWrites), .verify 1 (second 5) (second 5) none,
    .quick 0 (second 6)]

theorem twoMachines_issued : twoMachines.Issued sampleCrypto (second 0) :=
  ⟨rfl, by decide, rfl, nofun, fun _ member => absurd member List.not_mem_nil⟩

theorem crashedRun_enabled :
    ((machine sampleCrypto LicenseSystem.machineName).exec (handedOut twoMachines (second 0))
      crashedRun).isSome = true := by
  decide +kernel

theorem honest_licensee_never_locked_out_crashed :
    ∃ final, (machine sampleCrypto LicenseSystem.machineName).exec (handedOut twoMachines (second 0)) crashedRun =
        some final ∧ final.activated = [1, 0] ∧ final.versions.length = 5 ∧
      NeverLockedOut sampleCrypto LicenseSystem.machineName final := by
  refine ⟨_, (Option.some_get crashedRun_enabled).symm, by decide +kernel, by decide +kernel, ?_⟩
  exact @honest_licensee_never_locked_out sampleCrypto LicenseSystem.machineName twoMachines (second 0) crashedRun _
    (by decide +kernel) twoMachines_issued (Option.some_get crashedRun_enabled).symm

end SharedLicense

end Terrasync.Licensing
