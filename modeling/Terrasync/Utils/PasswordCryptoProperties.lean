import Terrasync.Utils.PasswordCrypto

/-! Which passwords come back from their encrypted form, and which texts are decrypted without
cutting a character. -/

set_option autoImplicit false

namespace Terrasync.Utils

open Lib.ByteOffset

theorem length_asBytes (text : Text) : (asBytes text).length = byteLength text := by
  rw [asBytes, List.length_flatMap]
  simp only [String.length_utf8EncodeChar]
  rfl

namespace Primitives

variable {primitives : Primitives}

theorem fromUtf8_asBytes (text : Text) : primitives.fromUtf8 (asBytes text) = .ok text := by
  have decoded : (asBytes text).toByteArray.utf8Decode? = some text.toArray := List.utf8Decode?_utf8Encode
  rw [fromUtf8, decoded]

/-! ### The parts of an encrypted password -/

theorem position_le (draw : Draw) : (generateRandomPosition draw - 1).toNat ≤ 9 := by
  have back : generateRandomPosition draw - 1 = draw.position % 10 := UInt8.add_sub_cancel _ _
  rw [back, UInt8.toNat_mod]
  exact Nat.le_of_lt_succ (Nat.mod_lt _ (by decide))

theorem toDigits_position {position : Nat} (small : position ≤ 9) :
    Nat.toDigits 10 position = [Nat.digitChar position] :=
  Nat.toDigits_of_lt_base (Nat.lt_succ_of_le small)

theorem toDigit_digitChar : ∀ position ≤ 9,
    toDigit (Nat.digitChar position) = some position ∧ (Nat.digitChar position).utf8Size = 1 := by
  decide

theorem toDigit_le {letter : Char} {position : Nat} (digit : toDigit letter = some position) :
    position ≤ 9 ∧ letter.utf8Size = 1 := by
  unfold toDigit at digit
  split at digit
  · rename_i decimal
    cases digit
    simp only [Char.isDigit, ge_iff_le, Bool.and_eq_true, decide_eq_true_eq, UInt32.le_iff_toNat_le] at decimal
    obtain ⟨least, most⟩ := decimal
    have value : letter.toNat ≤ 57 := most
    refine ⟨?_, ?_⟩
    · have zero : '0'.toNat = 48 := rfl
      omega
    · rw [Char.utf8Size, if_pos]
      exact UInt32.le_iff_toNat_le.mpr (Nat.le_trans value (by decide))
  · cases digit

structure Salted (salt : Text) : Prop where
  length : salt.length = passwordSaltLength
  single : ∀ letter ∈ salt, letter.utf8Size = 1

theorem salted (lawful : Lawful primitives) (draw : Draw) : Salted (primitives.generatePasswordSalt draw) where
  length := by
    rw [generatePasswordSalt, List.length_take, lawful.hexLength, draw.salt.2]
    rfl
  single := fun letter member => lawful.hexSingle _ letter (List.mem_of_mem_take member)

/-- The blocks of the padded data. -/
def blocks (data : Text) : Nat := if data = [] then 0 else byteLength data / 16 + 1

/-- The digits of an initial vector and of the padded data, which decrypt to the data. -/
structure Encrypted (primitives : Primitives) (data : Text) (key : Bytes) (encrypted : Text) : Prop where
  length : encrypted.length = 32 * (blocks data + 1)
  single : ∀ letter ∈ encrypted, letter.utf8Size = 1
  decrypts : data ≠ [] → primitives.decrypt encrypted key = .ok data

theorem asBytes_ne_nil {text : Text} (some_ : text ≠ []) : asBytes text ≠ [] := by
  intro empty
  have length := length_asBytes text
  rw [empty, List.length_nil] at length
  exact some_ (byteLength_eq_zero.mp length.symm)

theorem encrypt_spec (lawful : Lawful primitives) (draw : Draw) (data : Text) {key : Bytes}
    (sized : key.length = 32) :
    ∃ encrypted, primitives.encrypt draw data key = .ok encrypted ∧ Encrypted primitives data key encrypted := by
  by_cases empty : data = []
  · subst empty
    have encrypts : primitives.cbcEncrypt key draw.iv.1 (asBytes []) = .ok [] :=
      lawful.cipherEmpty key draw.iv.1 sized draw.iv.2
    refine ⟨primitives.hexEncode (draw.iv.1 ++ []), by rw [encrypt, encrypts], ?_, lawful.hexSingle _,
      fun some_ => absurd rfl some_⟩
    rw [lawful.hexLength, List.append_nil, draw.iv.2]
    rfl
  · obtain ⟨encrypted, encrypts, padded, inverse⟩ :=
      lawful.cipher key draw.iv.1 (asBytes data) sized draw.iv.2 (asBytes_ne_nil empty)
    refine ⟨primitives.hexEncode (draw.iv.1 ++ encrypted), by rw [encrypt, encrypts], ?_, lawful.hexSingle _,
      fun _ => ?_⟩
    · rw [lawful.hexLength, List.length_append, draw.iv.2, padded, length_asBytes, blocks, if_neg empty]
      omega
    · have enough : ¬ (draw.iv.1 ++ encrypted).length < 16 := by
        rw [List.length_append, draw.iv.2]
        omega
      rw [decrypt, lawful.hexInverse]
      dsimp only
      rw [if_neg enough, List.take_left' draw.iv.2, List.drop_left' draw.iv.2, inverse]
      exact fromUtf8_asBytes data

/-- The digit of the position, and the salt at that place among the digits. -/
def assembled (position : Nat) (salt encrypted : Text) : Text :=
  Nat.digitChar position :: (encrypted.take position ++ salt ++ encrypted.drop position)

theorem byteLength_assembled {position : Nat} (small : position ≤ 9) {salt encrypted data : Text} {key : Bytes}
    (salted : Salted salt) (digits : Encrypted primitives data key encrypted) :
    byteLength (assembled position salt encrypted) = 32 * blocks data + 41 := by
  have whole := byteLength_eq_length digits.single
  rw [← List.take_append_drop position encrypted, byteLength_append, List.take_append_drop,
    digits.length] at whole
  rw [assembled, byteLength_cons, (toDigit_digitChar position small).2, byteLength_append,
    byteLength_append, byteLength_eq_length salted.single, salted.length, passwordSaltLength]
  omega

theorem encryptPassword_short (lawful : Lawful primitives) (draw : Draw) {password : Text}
    (short : byteLength password < encryptedPasswordLength) :
    ∃ position ≤ 9, ∃ salt encrypted, Salted salt ∧
      Encrypted primitives password (primitives.generateKey primitives.cryptoSecret salt) encrypted ∧
        primitives.encryptPassword draw password = some (.ok (assembled position salt encrypted)) := by
  obtain ⟨encrypted, encrypts, digits⟩ := encrypt_spec lawful draw password
    (lawful.digest (asBytes primitives.cryptoSecret ++ asBytes (primitives.generatePasswordSalt draw)))
  have small := position_le draw
  refine ⟨_, small, _, encrypted, salted lawful draw, digits, ?_⟩
  have whole := byteLength_eq_length digits.single
  have length := digits.length
  have inside : (generateRandomPosition draw - 1).toNat < byteLength encrypted := by omega
  have front : byteLength (encrypted.take (generateRandomPosition draw - 1).toNat) =
      (generateRandomPosition draw - 1).toNat := by
    rw [byteLength_eq_length fun letter member => digits.single letter (List.mem_of_mem_take member),
      List.length_take]
    omega
  have cuts : cut encrypted (generateRandomPosition draw - 1).toNat =
      some (encrypted.take (generateRandomPosition draw - 1).toNat,
        encrypted.drop (generateRandomPosition draw - 1).toNat) :=
    cut_eq_some_iff.mpr ⟨(List.take_append_drop _ _).symm, front⟩
  rw [encryptPassword, if_neg (Nat.not_le.mpr short)]
  dsimp only
  rw [generateKey, encrypts]
  dsimp only
  rw [if_pos inside, insertStr, cuts, toDigits_position small]
  rfl

/-! ### Decryption -/

/-- A text of the expected length that begins with a digit is cut at two places. -/
theorem decryptPassword_digit {first : Char} {rest : Text} {position : Nat}
    (sized : byteLength (first :: rest) = encryptedPasswordLength) (digit : toDigit first = some position) :
    primitives.decryptPassword (first :: rest) =
      (slice rest position (position + passwordSaltLength)).bind fun salt =>
        (cut rest position).bind fun front =>
          (cut rest (position + passwordSaltLength)).bind fun back =>
            some (primitives.decrypt (front.1 ++ back.2) (primitives.generateKey primitives.cryptoSecret salt)) := by
  obtain ⟨small, single⟩ := toDigit_le digit
  have cuts : cut (first :: rest) 1 = some ([first], rest) :=
    cut_eq_some_iff.mpr ⟨rfl, by rw [byteLength_cons, single]; rfl⟩
  have room : ¬ byteLength rest < position + passwordSaltLength := by
    rw [byteLength_cons, single, encryptedPasswordLength] at sized
    rw [passwordSaltLength]
    omega
  unfold decryptPassword
  rw [if_neg (not_not.mpr sized)]
  simp only [digit, if_neg (Nat.not_lt.mpr small), cuts, if_neg room, Option.bind_eq_bind, Option.bind_some]

/-- A text as `encrypt_password` assembles it, of the length that is expected. -/
theorem decryptPassword_assembled {position : Nat} (small : position ≤ 9) {salt encrypted data : Text}
    (salted : Salted salt)
    (digits : Encrypted primitives data (primitives.generateKey primitives.cryptoSecret salt) encrypted)
    (some_ : data ≠ []) (sized : byteLength (assembled position salt encrypted) = encryptedPasswordLength) :
    primitives.decryptPassword (assembled position salt encrypted) = some (.ok data) := by
  have saltLength := (byteLength_eq_length salted.single).trans salted.length
  have front : byteLength (encrypted.take position) = position := by
    have length := digits.length
    rw [byteLength_eq_length fun letter member => digits.single letter (List.mem_of_mem_take member),
      List.length_take]
    omega
  have slices := slice_append (encrypted.take position) salt (encrypted.drop position)
  rw [front, saltLength] at slices
  have first : cut (encrypted.take position ++ salt ++ encrypted.drop position) position =
      some (encrypted.take position, salt ++ encrypted.drop position) :=
    cut_eq_some_iff.mpr ⟨List.append_assoc _ _ _, front⟩
  have second : cut (encrypted.take position ++ salt ++ encrypted.drop position) (position + passwordSaltLength) =
      some (encrypted.take position ++ salt, encrypted.drop position) :=
    cut_eq_some_iff.mpr ⟨rfl, by rw [byteLength_append, front, saltLength]⟩
  rw [assembled, decryptPassword_digit sized (toDigit_digitChar position small).1, slices, first, second]
  simp only [Option.bind_some, List.take_append_drop, digits.decrypts some_]

/-- Where `decrypt_password` cuts, there are boundaries. -/
def CutsBetween (text : Text) : Prop :=
  byteLength text = encryptedPasswordLength → ∀ first rest position, text = first :: rest →
    toDigit first = some position → IsBoundary rest position ∧ IsBoundary rest (position + passwordSaltLength)

theorem decryptPassword_returns_iff (text : Text) : primitives.decryptPassword text ≠ none ↔ CutsBetween text := by
  by_cases sized : byteLength text = encryptedPasswordLength
  · cases text with
    | nil => cases sized
    | cons first rest =>
        cases digit : toDigit first with
        | none =>
            have answers : primitives.decryptPassword (first :: rest) ≠ none := by
              unfold decryptPassword
              rw [if_neg (not_not.mpr sized)]
              simp only [digit, ne_eq, reduceCtorEq, not_false_eq_true]
            refine iff_of_true answers fun _ other tail position same found => ?_
            cases same
            rw [digit] at found
            cases found
        | some position =>
            rw [decryptPassword_digit sized digit]
            constructor
            · intro answers _ other tail position' same found
              cases same
              rw [digit] at found
              cases found
              obtain ⟨result, answer⟩ := Option.ne_none_iff_exists'.mp answers
              obtain ⟨salt, _, rest⟩ := Option.bind_eq_some_iff.mp answer
              obtain ⟨front, first, rest⟩ := Option.bind_eq_some_iff.mp rest
              obtain ⟨back, second, _⟩ := Option.bind_eq_some_iff.mp rest
              exact ⟨Option.isSome_iff_exists.mpr ⟨front, first⟩, Option.isSome_iff_exists.mpr ⟨back, second⟩⟩
            · intro between
              obtain ⟨first, second⟩ := between sized _ _ position rfl digit
              obtain ⟨salt, slices⟩ := Option.isSome_iff_exists.mp
                (slice_isSome (Nat.le_add_right _ _) first second)
              obtain ⟨front, first⟩ := Option.isSome_iff_exists.mp first
              obtain ⟨back, second⟩ := Option.isSome_iff_exists.mp second
              rw [slices, first, second]
              nofun
  · refine iff_of_true ?_ fun same => absurd same sized
    unfold decryptPassword
    rw [if_pos sized]
    nofun

/-! ### The round trip -/

/-- The password comes back from its encrypted form. -/
def RoundTrips (primitives : Primitives) (draw : Draw) (password : Text) : Prop :=
  ∃ encrypted, primitives.encryptPassword draw password = some (.ok encrypted) ∧
    primitives.decryptPassword encrypted = some (.ok password)

/-- An encrypted password is not encrypted again. -/
def Idempotent (primitives : Primitives) (draw again : Draw) (password : Text) : Prop :=
  ∃ encrypted, primitives.encryptPassword draw password = some (.ok encrypted) ∧
    primitives.encryptPassword again encrypted = some (.ok encrypted)

theorem blocks_eq (password : Text) :
    blocks password = if byteLength password = 0 then 0 else byteLength password / 16 + 1 := by
  simp only [blocks, byteLength_eq_zero]

theorem blocks_eq_one_iff {password : Text} :
    blocks password = 1 ↔ 1 ≤ byteLength password ∧ byteLength password ≤ 15 := by
  rw [blocks_eq]
  split <;> omega

theorem blocks_ne_zero_iff {password : Text} : blocks password ≠ 0 ↔ 1 ≤ byteLength password := by
  rw [blocks_eq]
  split <;> omega

theorem roundTrips_iff (lawful : Lawful primitives) (draw : Draw) {password : Text}
    (short : byteLength password < encryptedPasswordLength) :
    RoundTrips primitives draw password ↔ blocks password = 1 := by
  obtain ⟨position, small, salt, encrypted, salted, digits, encrypts⟩ := encryptPassword_short lawful draw short
  have length := byteLength_assembled small salted digits
  constructor
  · rintro ⟨other, same, decrypts⟩
    rw [encrypts] at same
    cases same
    by_contra differ
    have other : byteLength (assembled position salt encrypted) ≠ encryptedPasswordLength := by
      rw [length, encryptedPasswordLength]
      omega
    unfold decryptPassword at decrypts
    rw [if_pos other] at decrypts
    -- The encrypted form comes back as it is, and no password is as long as its encrypted form.
    cases decrypts
    have some_ : blocks (assembled position salt encrypted) ≠ 0 := blocks_ne_zero_iff.mpr (by omega)
    rw [encryptedPasswordLength] at short
    omega
  · intro block
    have some_ : password ≠ [] := by
      rintro rfl
      cases block
    refine ⟨_, encrypts, decryptPassword_assembled small salted digits some_ ?_⟩
    rw [length, block]
    rfl

theorem idempotent_iff (lawful : Lawful primitives) (draw again : Draw) {password : Text}
    (short : byteLength password < encryptedPasswordLength) :
    Idempotent primitives draw again password ↔ blocks password ≠ 0 := by
  obtain ⟨position, small, salt, encrypted, salted, digits, encrypts⟩ := encryptPassword_short lawful draw short
  have length := byteLength_assembled small salted digits
  constructor
  · rintro ⟨other, same, unchanged⟩ none
    rw [encrypts] at same
    cases same
    rw [none] at length
    -- The forty-one bytes of the encrypted empty password are encrypted once more, to more bytes.
    obtain ⟨_, small', _, _, salted', digits', encrypts'⟩ := encryptPassword_short lawful again
      (show byteLength (assembled position salt encrypted) < encryptedPasswordLength by
        rw [length, encryptedPasswordLength]; omega)
    rw [encrypts'] at unchanged
    have longer := byteLength_assembled small' salted' digits'
    have same := congrArg byteLength (Except.ok.inj (Option.some.inj unchanged))
    have more : blocks (assembled position salt encrypted) ≠ 0 := blocks_ne_zero_iff.mpr (by omega)
    omega
  · intro some_
    refine ⟨_, encrypts, ?_⟩
    rw [encryptPassword, if_pos]
    rw [length, encryptedPasswordLength]
    omega

/-- A password comes back exactly when its padded form is one block; its encrypted form is never
encrypted again, unless it is empty; and a text is decrypted without a panic exactly when no
character is cut. -/
theorem stored_password_iff (lawful : Lawful primitives) {password : Text} (short : byteLength password ≤ 72)
    (draw again : Draw) (text : Text) :
    (RoundTrips primitives draw password ↔ 1 ≤ byteLength password ∧ byteLength password ≤ 15) ∧
      (Idempotent primitives draw again password ↔ 1 ≤ byteLength password) ∧
      (primitives.decryptPassword text ≠ none ↔ CutsBetween text) := by
  have under : byteLength password < encryptedPasswordLength := Nat.lt_succ_of_le short
  refine ⟨?_, ?_, decryptPassword_returns_iff text⟩
  · rw [roundTrips_iff lawful draw under, blocks_eq_one_iff]
  · rw [idempotent_iff lawful draw again under, blocks_ne_zero_iff]

end Primitives

/-! ### Plain digits and plain padding -/

def padded (data : Bytes) : Bytes :=
  data ++ List.replicate (16 - data.length % 16) (UInt8.ofNat (16 - data.length % 16))

def unpadded (data : Bytes) : Except SymmetricCipherError Bytes :=
  match data.getLast? with
  | none => .error .invalidLength
  | some last => .ok (data.take (data.length - last.toNat))

def hexDigits (bytes : Bytes) : Text :=
  bytes.flatMap fun byte => [Nat.digitChar (byte.toNat / 16), Nat.digitChar (byte.toNat % 16)]

def hexValue (letter : Char) : Option Nat := (List.range 16).find? fun value => Nat.digitChar value = letter

def hexBytes : Text → Except Text Bytes
  | [] => .ok []
  | [_] => .error "Odd number of digits".toList
  | high :: low :: rest =>
      match hexValue high, hexValue low with
      | some high, some low => (hexBytes rest).map (UInt8.ofNat (16 * high + low) :: ·)
      | _, _ => .error "Invalid character".toList

/-- A cipher that only pads, where there are data. -/
def plainPrimitives : Primitives where
  sha256 := fun _ => List.replicate 32 0
  cbcEncrypt := fun _ _ data => .ok (if data.isEmpty then [] else padded data)
  cbcDecrypt := fun _ _ data => unpadded data
  hexEncode := hexDigits
  hexDecode := hexBytes
  cryptoSecret := "terrasync-secret-key".toList
  utf8Error := fun _ => []

theorem unpadded_padded (data : Bytes) : unpadded (padded data) = .ok data := by
  have below := Nat.mod_lt data.length (show 0 < 16 by decide)
  obtain ⟨count, same⟩ : ∃ count, 16 - data.length % 16 = count + 1 := ⟨15 - data.length % 16, by omega⟩
  have value : (UInt8.ofNat (16 - data.length % 16)).toNat = 16 - data.length % 16 := by
    rw [UInt8.toNat_ofNat', Nat.mod_eq_of_lt (by omega)]
  have last : (padded data).getLast? = some (UInt8.ofNat (16 - data.length % 16)) := by
    rw [padded, same, List.replicate_succ', ← List.append_assoc, List.getLast?_concat]
  have length : (padded data).length = data.length + (16 - data.length % 16) := by
    rw [padded, List.length_append, List.length_replicate]
  rw [unpadded, last]
  dsimp only
  rw [value, length, Nat.add_sub_cancel, padded, List.take_left]

theorem hexValue_digitChar : ∀ value < 16, hexValue (Nat.digitChar value) = some value ∧
    (Nat.digitChar value).utf8Size = 1 := by
  decide

theorem halves (byte : UInt8) : byte.toNat / 16 < 16 ∧ byte.toNat % 16 < 16 := by
  have bound := byte.toNat_lt
  omega

theorem hexBytes_hexDigits (bytes : Bytes) : hexBytes (hexDigits bytes) = .ok bytes := by
  induction bytes with
  | nil => rfl
  | cons byte rest ih =>
      obtain ⟨high, low⟩ := halves byte
      have digits : hexDigits (byte :: rest) =
          Nat.digitChar (byte.toNat / 16) :: Nat.digitChar (byte.toNat % 16) :: hexDigits rest := rfl
      rw [digits, hexBytes, (hexValue_digitChar _ high).1, (hexValue_digitChar _ low).1]
      dsimp only
      rw [ih, Nat.div_add_mod, UInt8.ofNat_toNat]
      rfl

theorem plainPrimitives_lawful : Lawful plainPrimitives where
  digest := fun _ => rfl
  cipherEmpty := fun _ _ _ _ => rfl
  cipher := fun _ _ data _ _ some_ => by
    have below := Nat.mod_lt data.length (show 0 < 16 by decide)
    refine ⟨padded data, ?_, ?_, unpadded_padded data⟩
    · simp only [plainPrimitives, List.isEmpty_iff, some_, if_false]
    rw [padded, List.length_append, List.length_replicate]
    omega
  hexLength := fun bytes => by
    change (hexDigits bytes).length = _
    induction bytes with
    | nil => rfl
    | cons byte rest ih =>
        have digits : (hexDigits (byte :: rest)).length = (hexDigits rest).length + 2 := rfl
        rw [digits, ih, List.length_cons]
        omega
  hexSingle := fun bytes letter member => by
    obtain ⟨byte, _, digit⟩ := List.mem_flatMap.mp member
    obtain ⟨high, low⟩ := halves byte
    obtain rfl | last := List.mem_cons.mp digit
    · exact (hexValue_digitChar _ high).2
    · cases List.mem_singleton.mp last
      exact (hexValue_digitChar _ low).2
  hexInverse := hexBytes_hexDigits

def sampleDraw : Draw := ⟨⟨[1, 2, 3, 4], rfl⟩, 13, ⟨List.replicate 16 7, rfl⟩⟩

/-- One byte less than a block, and a text that was never encrypted. -/
theorem stored_password_iff_block :
    Primitives.RoundTrips plainPrimitives sampleDraw (List.replicate 15 'p') ∧
      Primitives.Idempotent plainPrimitives sampleDraw sampleDraw (List.replicate 15 'p') ∧
      plainPrimitives.decryptPassword (List.replicate 73 'p') ≠ none := by
  obtain ⟨round, same, returns⟩ := @Primitives.stored_password_iff plainPrimitives plainPrimitives_lawful
    (List.replicate 15 'p') (by decide) sampleDraw sampleDraw (List.replicate 73 'p')
  refine ⟨round.mpr (by decide), same.mpr (by decide), returns.mpr fun _ first rest position parts digit => ?_⟩
  cases parts
  cases digit

/-- A text of 73 bytes whose ninth and tenth byte are one character. -/
def accented : Text := '0' :: List.replicate 7 'a' ++ 'é' :: List.replicate 63 'a'

/-- A password of one block does not come back, the empty one neither does nor is it left alone
afterwards, and the accented text makes the decryption panic. -/
theorem long_password_lost :
    ¬ Primitives.RoundTrips plainPrimitives sampleDraw (List.replicate 16 'p') ∧
      ¬ Primitives.RoundTrips plainPrimitives sampleDraw [] ∧
      ¬ Primitives.Idempotent plainPrimitives sampleDraw sampleDraw [] ∧
      plainPrimitives.decryptPassword accented = none := by
  refine ⟨fun round => ?_, fun round => ?_, fun same => ?_, by decide +kernel⟩
  · have short := (Primitives.roundTrips_iff plainPrimitives_lawful sampleDraw (by decide)).mp round
    exact absurd short (by decide)
  · have short := (Primitives.roundTrips_iff plainPrimitives_lawful sampleDraw (by decide)).mp round
    exact absurd short (by decide)
  · have some_ := (Primitives.idempotent_iff plainPrimitives_lawful sampleDraw sampleDraw (by decide)).mp same
    exact absurd rfl some_

end Terrasync.Utils
