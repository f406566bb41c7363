import Terrasync.Licensing.BindingMessage
import Terrasync.Licensing.LicenseProperties
import Terrasync.Licensing.LicenseSystem

/-! The limit of machines against somebody who edits the licence file but cannot compute the
binding HMAC. -/

set_option autoImplicit false

namespace Terrasync.Licensing.LicenseSystem

variable {crypto : Crypto} {fingerprint : Nat → Text}

/-- A list the program may have signed: not empty, within the limit, and every machine on
it was added when fewer were found. -/
structure Lawful (max : Nat) (added : List (Text × Nat)) (machines : List MachineBinding) : Prop where
  separated : Separated machines
  listed : machines ≠ []
  limited : machines.length ≤ max
  recorded : ∀ machine ∈ machines, ∃ found < max, (machine.machineFingerprint, found) ∈ added

theorem Lawful.of_fingerprints {max : Nat} {added : List (Text × Nat)} {machines machines' : List MachineBinding}
    (lawful : Lawful max added machines) (same : fingerprints machines' = fingerprints machines) :
    Lawful max added machines' := by
  have shared : ∀ machine ∈ machines', ∃ other ∈ machines,
      other.machineFingerprint = machine.machineFingerprint := by
    intro machine member
    have listed : machine.machineFingerprint ∈ fingerprints machines := by
      rw [← same]
      exact List.mem_map_of_mem member
    exact List.mem_map.mp listed
  have length : machines'.length = machines.length := by
    rw [← List.length_map (f := MachineBinding.machineFingerprint), ← fingerprints, same, fingerprints,
      List.length_map]
  refine ⟨?_, ?_, ?_, ?_⟩
  · intro machine member
    obtain ⟨other, listed, equal⟩ := shared machine member
    rw [← equal]
    exact lawful.separated other listed
  · intro empty
    rw [empty] at length
    exact lawful.listed (List.length_eq_zero_iff.mp length.symm)
  · rw [length]
    exact lawful.limited
  · intro machine member
    obtain ⟨other, listed, equal⟩ := shared machine member
    rw [← equal]
    exact lawful.recorded other listed

theorem Lawful.mono {max : Nat} {added : List (Text × Nat)} {machines : List MachineBinding}
    (lawful : Lawful max added machines) (entry : Text × Nat) : Lawful max (entry :: added) machines where
  separated := lawful.separated
  listed := lawful.listed
  limited := lawful.limited
  recorded := fun machine member =>
    let ⟨found, below, listed⟩ := lawful.recorded machine member
    ⟨found, below, List.mem_cons_of_mem _ listed⟩

/-- What is signed was lawful, and so is any file that passes the check of its HMAC. -/
structure Bound (crypto : Crypto) (max : Nat) (system : LicenseSystem) : Prop where
  limit : system.license.payload.maxMachines = max
  issued : ∀ message ∈ system.issued, ∃ machines clock, Lawful max system.added machines ∧
    message = crypto.buildHmacMessage machines clock
  passes : ∀ activation, system.license.activation = some activation →
    system.license.bindingHmacMatches crypto activation → Lawful max system.added activation.machines

/-- The edited file passes only with an HMAC that the program wrote for the same message. -/
def Unforged (crypto : Crypto) (system : LicenseSystem) : LicenseAction → Prop
  | .edit (some activation) licenseClock =>
      ∀ clock ∈ [licenseClock, none],
        crypto.computeBindingHmac system.license.signature activation.machines clock = activation.bindingHmac →
          crypto.buildHmacMessage activation.machines clock ∈ system.issued
  | _ => True

/-- No edit puts the character between the lines into a fingerprint. -/
def EditsSeparated (_ : LicenseSystem) : LicenseAction → Prop
  | .edit (some activation) _ => Separated activation.machines
  | _ => True

/-- The file the program just signed for a lawful list. -/
theorem Bound.save {max : Nat} {system : LicenseSystem} {machines : List MachineBinding}
    {clock : Option Instant} {saved : Saved} {host : Nat} (bound : Bound crypto max system)
    (lawful : Lawful max system.added machines)
    (signed : saved.license = system.license.sign crypto machines clock) :
    Bound crypto max (system.save crypto host saved) := by
  refine ⟨?_, ?_, ?_⟩
  · simp only [LicenseSystem.save, signed, LicenseFile.sign]
    exact bound.limit
  · intro message member
    simp only [LicenseSystem.save, messageOf, signed, LicenseFile.sign, Option.map_some,
      Option.toList_some, List.singleton_append, List.mem_cons] at member
    obtain rfl | earlier := member
    · exact ⟨machines, clock, lawful, rfl⟩
    · exact bound.issued message earlier
  · intro activation activated _
    simp only [LicenseSystem.save, signed, LicenseFile.sign, Option.some.injEq] at activated
    rw [← activated]
    exact lawful

theorem Bound.record {max : Nat} {system : LicenseSystem} (bound : Bound crypto max system)
    (entry : Text × Nat) : Bound crypto max { system with added := entry :: system.added } where
  limit := bound.limit
  issued := fun message member =>
    let ⟨machines, clock, lawful, built⟩ := bound.issued message member
    ⟨machines, clock, lawful.mono entry, built⟩
  passes := fun activation activated bound_ => (bound.passes activation activated bound_).mono entry

theorem activate_bound {max : Nat} {system : LicenseSystem} {host : Nat} {now : Instant}
    (hex : '|' ∉ fingerprint host) (bound : Bound crypto max system) :
    Bound crypto max (system.activate crypto fingerprint host now) := by
  simp only [activate]
  split
  · next saved activated =>
      obtain ⟨limited, ⟨fresh, rfl⟩ | ⟨activation, existing, matched, room, rfl⟩⟩ :=
        LicenseFile.activateLicense_ok activated
      · have positive : 0 < max := by
          rw [← bound.limit]
          exact Nat.pos_of_ne_zero limited
        have empty : found system.license = 0 := by rw [found, fresh]; rfl
        rw [empty]
        have lawful : Lawful max ((fingerprint host, 0) :: system.added) [⟨fingerprint host, now, now⟩] := by
          refine ⟨?_, List.cons_ne_nil _ _, positive, ?_⟩
          · intro machine member
            rw [List.mem_singleton.mp member]
            exact hex
          · intro machine member
            rw [List.mem_singleton.mp member]
            exact ⟨0, positive, List.mem_cons_self⟩
        exact (bound.record (fingerprint host, 0)).save lawful rfl
      · have count : found system.license = activation.machines.length := by rw [found, existing]; rfl
        rw [bound.limit] at room
        rw [count]
        have before := (bound.passes activation existing matched).mono
          (fingerprint host, activation.machines.length)
        refine (bound.record (fingerprint host, activation.machines.length)).save ⟨?_, ?_, ?_, ?_⟩ rfl
        · intro machine member
          obtain earlier | new := List.mem_append.mp member
          · exact before.separated machine earlier
          · rw [List.mem_singleton.mp new]
            exact hex
        · exact List.append_ne_nil_of_right_ne_nil _ (List.cons_ne_nil _ _)
        · rw [List.length_append]
          exact room
        · intro machine member
          obtain earlier | new := List.mem_append.mp member
          · exact before.recorded machine earlier
          · rw [List.mem_singleton.mp new]
            exact ⟨_, room, List.mem_cons_self⟩
  · exact bound
  · exact bound

theorem verify_bound {max : Nat} {system : LicenseSystem} {host : Nat} {start advanced : Instant}
    (positive : 0 < max) (bound : Bound crypto max system) :
    Bound crypto max (system.verify crypto fingerprint host start advanced) := by
  simp only [verify]
  split
  · next saved verified =>
      have limited : system.license.payload.maxMachines ≠ 0 := by
        rw [bound.limit]
        exact Nat.pos_iff_ne_zero.mp positive
      obtain ⟨activation, activated, _, checked, _, rfl⟩ := LicenseFile.verifyLicense_ok limited verified
      have lawful := bound.passes activation activated (LicenseFile.checkBinding_ok checked).1
      refine bound.save (lawful.of_fingerprints ?_) (LicenseFile.updateSentinelClock_license _ _ _ _)
      exact LicenseFile.touch_fingerprints _ _ _
  · exact bound

theorem edit_bound {max : Nat} {system : LicenseSystem} {activation : Option Activation}
    {licenseClock : Option Instant} (rfc3339 : Rfc3339 crypto)
    (unforged : Unforged crypto system (.edit activation licenseClock))
    (separated : EditsSeparated system (.edit activation licenseClock)) (bound : Bound crypto max system) :
    Bound crypto max { system with license := { system.license with activation, licenseClock } } where
  limit := bound.limit
  issued := bound.issued
  passes := by
    intro edited activated matched
    cases activated
    have signed : ∃ clock, crypto.buildHmacMessage edited.machines clock ∈ system.issued := by
      obtain withClock | without := matched
      · exact ⟨licenseClock, unforged licenseClock List.mem_cons_self withClock⟩
      · exact ⟨none, unforged none (List.mem_cons_of_mem _ List.mem_cons_self) without⟩
    obtain ⟨clock, member⟩ := signed
    obtain ⟨machines, clock', lawful, same⟩ := bound.issued _ member
    exact lawful.of_fingerprints
      (Crypto.buildHmacMessage_inj rfc3339 separated lawful.separated lawful.listed same)

/-- A file that passes lists at most `max` machines, and the machine it passes on was added
when fewer were found. -/
def LimitKept (crypto : Crypto) (fingerprint : Nat → Text) (max : Nat) (system : LicenseSystem) : Prop :=
  ∀ host, system.Accepts crypto fingerprint host →
    ∃ activation, system.license.activation = some activation ∧ activation.machines.length ≤ max ∧
      ∃ found < max, (fingerprint host, found) ∈ system.added

theorem Bound.limitKept {max : Nat} {system : LicenseSystem} (positive : 0 < max)
    (bound : Bound crypto max system) : system.LimitKept crypto fingerprint max := by
  intro host accepted
  have limited : system.license.payload.maxMachines ≠ 0 := by
    rw [bound.limit]
    exact Nat.pos_iff_ne_zero.mp positive
  have passed : ∃ activation, system.license.activation = some activation ∧
      system.license.bindingHmacMatches crypto activation ∧
      LicenseFile.lists (fingerprint host) activation.machines = true := by
    obtain ⟨start, advanced, saved, verified⟩ | ⟨now, verified⟩ := accepted
    · obtain ⟨activation, activated, _, checked, _⟩ := LicenseFile.verifyLicense_ok limited verified
      obtain ⟨matched, _, listed, _⟩ := LicenseFile.checkBinding_ok checked
      exact ⟨activation, activated, matched, listed⟩
    · exact LicenseFile.quickVerify_ok limited verified
  obtain ⟨activation, activated, matched, listed⟩ := passed
  have lawful := bound.passes activation activated matched
  obtain ⟨machine, member, same⟩ := List.any_eq_true.mp listed
  have recorded := lawful.recorded machine member
  rw [of_decide_eq_true same] at recorded
  exact ⟨activation, activated, lawful.limited, recorded⟩

/-- The limit holds in every run in which no edit puts the separator into a fingerprint. -/
theorem machine_limit_kept {license : LicenseFile} {actions : List LicenseAction} {final : LicenseSystem}
    (rfc3339 : Rfc3339 crypto) (hex : ∀ host, '|' ∉ fingerprint host)
    (positive : 0 < license.payload.maxMachines)
    (unforged : (machine crypto fingerprint).Along (Unforged crypto) (.new license) actions)
    (separated : (machine crypto fingerprint).Along EditsSeparated (.new license) actions)
    (run : (machine crypto fingerprint).exec (.new license) actions = some final) :
    final.LimitKept crypto fingerprint license.payload.maxMachines := by
  have preserved : ∀ {system action next}, Bound crypto license.payload.maxMachines system →
      (Unforged crypto system action ∧ EditsSeparated system action) →
      (machine crypto fingerprint).step system action = some next →
      Bound crypto license.payload.maxMachines next := by
    intro system action next bound allowed stepped
    cases stepped
    cases action with
    | activate host now => exact activate_bound (hex host) bound
    | verify host start advanced => exact verify_bound positive bound
    | edit activation licenseClock => exact edit_bound rfc3339 allowed.1 allowed.2 bound
  have initial : Bound crypto license.payload.maxMachines (.new license) :=
    ⟨rfl, fun _ member => absurd member List.not_mem_nil, fun _ activated => by cases activated⟩
  exact (Lib.Machine.exec_invariant_along preserved initial (unforged.and separated) run).limitKept positive

/-- A licence for two machines. -/
def pairLicense : LicenseFile where
  payload :=
    { licenseId := ['l', '1'], licensee := [], issuedAt := 0, expiresAt := none
      activationWindowDays := 7, maxMachines := 2 }
  signature := ['s']
  activation := none
  licenseClock := none

def hostName (host : Nat) : Text := ['m', digit host]

theorem hostName_plain (host : Nat) : '|' ∉ hostName host := by
  simp [hostName, (digit_plain host).2.symm]

def binding (name : Text) (time : Instant) : MachineBinding := ⟨name, time, time⟩

def signedList (machines : List MachineBinding) : Option Activation :=
  some ⟨machines, sampleCrypto.computeBindingHmac pairLicense.signature machines (some (second 1))⟩

/-- Two machines are activated, an older file is put back, and the first machine checks it. -/
def restoredRun : List LicenseAction :=
  [.activate 0 (second 1), .activate 1 (second 2),
    .edit (signedList [binding (hostName 0) (second 1)]) (some (second 1)), .verify 0 (second 3) (second 3)]

instance (system : LicenseSystem) (action : LicenseAction) : Decidable (Unforged sampleCrypto system action) := by
  unfold Unforged
  split <;> infer_instance

instance (system : LicenseSystem) (action : LicenseAction) : Decidable (EditsSeparated system action) := by
  unfold EditsSeparated
  split <;> infer_instance

theorem machine_limit_kept_restored :
    ∃ final, (machine sampleCrypto hostName).exec (.new pairLicense) restoredRun = some final ∧
      final.LimitKept sampleCrypto hostName 2 :=
  ⟨_, rfl, @machine_limit_kept sampleCrypto hostName pairLicense restoredRun _ sampleCrypto_rfc3339
    hostName_plain (by decide) (by decide +kernel) (by decide +kernel) rfl⟩

/-- The lines of two machines, read as one machine. -/
def mergedName : Text :=
  sampleCrypto.bindingLine (binding (hostName 0) (second 1)) ++ '|' :: hostName 1

/-- The full list is rewritten as one machine, a third one is activated, and the list is
written out again. -/
def mergedRun : List LicenseAction :=
  [.activate 0 (second 1), .activate 1 (second 2),
    .edit (signedList [binding mergedName (second 2)]) (some (second 1)), .activate 2 (second 3),
    .edit (signedList [binding (hostName 0) (second 1), binding (hostName 1) (second 2),
      binding (hostName 2) (second 3)]) (some (second 1))]

/-- Every edit carries an HMAC of the program for the same message, and a licence for two
machines is accepted with three. -/
theorem merged_lines_exceed_limit :
    ∃ final, (machine sampleCrypto hostName).exec (.new pairLicense) mergedRun = some final ∧
      (machine sampleCrypto hostName).Along (Unforged sampleCrypto) (.new pairLicense) mergedRun ∧
      ¬ final.LimitKept sampleCrypto hostName 2 := by
  refine ⟨_, rfl, by decide +kernel, ?_⟩
  intro kept
  obtain ⟨activation, activated, limited, _⟩ := kept 0 (.inr ⟨second 4, by decide +kernel⟩)
  cases activated
  exact absurd limited (by decide)

end Terrasync.Licensing.LicenseSystem
