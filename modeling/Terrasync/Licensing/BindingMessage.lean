import Terrasync.Lib.Joined
import Terrasync.Licensing.License

/-! What the message under the binding HMAC says of the machines. Its lines are joined
without lengths, so the list can only be read back from it when no fingerprint contains the
character between the lines. -/

set_option autoImplicit false

namespace Terrasync.Licensing

/-- What the message relies on of a rendered time: a date without colons, a `T`, the rest. -/
structure Rfc3339 (crypto : Crypto) : Prop where
  shape : ∀ time, ∃ date rest, crypto.toRfc3339 time = date ++ 'T' :: rest ∧ ':' ∉ date ∧ 'T' ∉ rest
  bar : ∀ time, '|' ∉ crypto.toRfc3339 time

/-- No fingerprint contains the character between the lines of the message. -/
def Separated (machines : List MachineBinding) : Prop :=
  ∀ machine ∈ machines, '|' ∉ machine.machineFingerprint

instance (machines : List MachineBinding) : Decidable (Separated machines) :=
  inferInstanceAs (Decidable (∀ machine ∈ machines, _))

def fingerprints (machines : List MachineBinding) : List Text :=
  machines.map MachineBinding.machineFingerprint

namespace Crypto

variable {crypto : Crypto}

/-- The text before the last time of a line is determined. -/
theorem before_time_inj (rfc3339 : Rfc3339 crypto) {text text' : Text} {time time' : Instant}
    (same : text ++ ':' :: crypto.toRfc3339 time = text' ++ ':' :: crypto.toRfc3339 time') :
    text = text' := by
  obtain ⟨date, rest, rendered, colons, tail⟩ := rfc3339.shape time
  obtain ⟨date', rest', rendered', colons', tail'⟩ := rfc3339.shape time'
  rw [rendered, rendered', ← List.cons_append, ← List.cons_append, ← List.append_assoc,
    ← List.append_assoc] at same
  exact (Lib.append_cons_inj_last colons colons' (Lib.append_cons_inj_last tail tail' same).1).1

theorem bindingLine_inj (rfc3339 : Rfc3339 crypto) {machine machine' : MachineBinding}
    (same : crypto.bindingLine machine = crypto.bindingLine machine') :
    machine.machineFingerprint = machine'.machineFingerprint := by
  have activated := before_time_inj rfc3339 same
  exact before_time_inj rfc3339 activated

theorem bindingLine_ne_clockLine (rfc3339 : Rfc3339 crypto) (machine : MachineBinding) (clock : Instant) :
    crypto.bindingLine machine ≠ crypto.clockLine clock := by
  intro same
  have word : machine.machineFingerprint ++ ':' :: crypto.toRfc3339 machine.activatedAt =
      ['c', 'l', 'o', 'c', 'k'] := before_time_inj rfc3339 same
  obtain ⟨date, rest, rendered, _, _⟩ := rfc3339.shape machine.activatedAt
  have member : 'T' ∈ ['c', 'l', 'o', 'c', 'k'] := by
    rw [← word, rendered]
    exact List.mem_append_right _ (List.mem_cons_of_mem _ (List.mem_append_right _ List.mem_cons_self))
  exact absurd member (by decide)

theorem bindingLine_ne_nil (machine : MachineBinding) : crypto.bindingLine machine ≠ [] := by
  simp [bindingLine]

/-- Lists of lines show the fingerprints, and whether a clock is among them. -/
theorem hmacParts_inj (rfc3339 : Rfc3339 crypto) {machines machines' : List MachineBinding}
    {clock clock' : Option Instant}
    (same : crypto.hmacParts machines clock = crypto.hmacParts machines' clock') :
    fingerprints machines = fingerprints machines' := by
  induction machines generalizing machines' with
  | nil =>
      cases machines' with
      | nil => rfl
      | cons machine' rest' =>
          cases clock with
          | none => cases same
          | some time => exact absurd (List.cons.inj same).1.symm (bindingLine_ne_clockLine rfc3339 _ _)
  | cons machine rest ih =>
      cases machines' with
      | nil =>
          cases clock' with
          | none => cases same
          | some time => exact absurd (List.cons.inj same).1 (bindingLine_ne_clockLine rfc3339 _ _)
      | cons machine' rest' =>
          obtain ⟨line, lines⟩ := List.cons.inj same
          exact congrArg₂ List.cons (bindingLine_inj rfc3339 line) (ih lines)

theorem separated_parts (rfc3339 : Rfc3339 crypto) {machines : List MachineBinding}
    (separated : Separated machines) (clock : Option Instant) :
    ∀ part ∈ crypto.hmacParts machines clock, '|' ∉ part := by
  intro part member
  obtain line | line := List.mem_append.mp member
  · obtain ⟨machine, listed, rfl⟩ := List.mem_map.mp line
    simp only [bindingLine, List.mem_append, List.mem_cons, separated machine listed,
      rfc3339.bar machine.activatedAt, rfc3339.bar machine.lastVerified, or_false, false_or]
    decide
  · obtain ⟨time, _, rfl⟩ := List.mem_map.mp line
    simp only [clockLine, List.mem_append, List.mem_cons, rfc3339.bar time, or_false]
    decide

/-- Two separated lists with the same message have the same fingerprints, whichever of the
two formats each was written in. -/
theorem buildHmacMessage_inj (rfc3339 : Rfc3339 crypto) {machines machines' : List MachineBinding}
    {clock clock' : Option Instant} (separated : Separated machines) (separated' : Separated machines')
    (listed : machines' ≠ [])
    (same : crypto.buildHmacMessage machines clock = crypto.buildHmacMessage machines' clock') :
    fingerprints machines = fingerprints machines' := by
  have parts' : crypto.hmacParts machines' clock' ≠ [] := by
    obtain ⟨machine, rest, rfl⟩ := List.exists_cons_of_ne_nil listed
    exact List.cons_ne_nil _ _
  have parts : crypto.hmacParts machines clock ≠ [] := by
    intro empty
    obtain ⟨machine, rest, rfl⟩ := List.exists_cons_of_ne_nil listed
    rw [buildHmacMessage, empty, buildHmacMessage] at same
    exact Lib.intercalate_ne_nil (bindingLine_ne_nil machine) _ same.symm
  exact hmacParts_inj rfc3339 (Lib.intercalate_inj parts parts' (separated_parts rfc3339 separated clock)
    (separated_parts rfc3339 separated' clock') same)

end Crypto

/-! A small instance of the primitives: a MAC is its message with the key before it, a hash is
the reversed text, and times are whole seconds below ten. -/

def digit : Nat → Char
  | 0 => '0'
  | 1 => '1'
  | 2 => '2'
  | 3 => '3'
  | 4 => '4'
  | 5 => '5'
  | 6 => '6'
  | 7 => '7'
  | 8 => '8'
  | _ => '9'

def second (count : Nat) : Instant := count * 1000000000

def sampleCrypto : Crypto where
  verifySignature := fun _ _ => true
  bindingMac := fun signature message => signature ++ message
  sentinelMac := fun message => message
  sha256Hex := fun text => (text.reverse ++ List.replicate 64 '0').take 64
  toRfc3339 := fun time =>
    ['1', '9', '7', '0', '-', '0', '1', '-', '0', '1'] ++
      'T' :: ['0', '0', ':', '0', '0', ':', '0', digit (time / 1000000000).toNat, '+', '0', '0', ':', '0', '0']

theorem digit_plain (value : Nat) : digit value ≠ 'T' ∧ digit value ≠ '|' := by
  unfold digit
  split <;> decide

theorem sampleCrypto_rfc3339 : Rfc3339 sampleCrypto where
  shape := by
    intro time
    refine ⟨_, _, rfl, by decide, ?_⟩
    simp [(digit_plain (time / 1000000000).toNat).1.symm]
  bar := by
    intro time
    simp [sampleCrypto, (digit_plain (time / 1000000000).toNat).2.symm]

end Terrasync.Licensing
