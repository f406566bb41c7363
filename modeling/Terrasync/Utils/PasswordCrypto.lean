import Terrasync.Lib.ByteOffset

/-! The passwords of the configuration file, as `crypto.rs` encrypts and decrypts them. SHA-256,
AES-256 in CBC mode with PKCS padding, hexadecimal digits and the texts of foreign errors are
parameters; what is drawn at random is an argument. No result stands for a panic. -/

set_option autoImplicit false

namespace Terrasync.Utils

open Lib.ByteOffset

abbrev Bytes := List UInt8

abbrev Text := List Char

inductive UtilsError where
  | cryptoError (text : Text)
deriving DecidableEq, Repr

inductive SymmetricCipherError where
  | invalidLength
  | invalidPadding
deriving DecidableEq, Repr

/-- The loops over the buffers of the ciphers hand on everything that these write. -/
structure Primitives where
  sha256 : Bytes → Bytes
  /-- Key, initial vector and data. -/
  cbcEncrypt : Bytes → Bytes → Bytes → Except SymmetricCipherError Bytes
  cbcDecrypt : Bytes → Bytes → Bytes → Except SymmetricCipherError Bytes
  hexEncode : Bytes → Text
  hexDecode : Text → Except Text Bytes
  /-- `crypto_secret()` -/
  cryptoSecret : Text
  utf8Error : Bytes → Text

/-- The random values that `encrypt_password` draws. -/
structure Draw where
  salt : { bytes : Bytes // bytes.length = 4 }
  position : UInt8
  iv : { bytes : Bytes // bytes.length = 16 }
deriving DecidableEq

def SymmetricCipherError.toUtilsError : SymmetricCipherError → UtilsError
  | .invalidLength => .cryptoError "Invalid length".toList
  | .invalidPadding => .cryptoError "Invalid padding".toList

def asBytes (text : Text) : Bytes := text.flatMap String.utf8EncodeChar

def passwordSaltLength : Nat := 8

def encryptedPasswordLength : Nat := 73

/-- `to_digit(10)` -/
def toDigit (letter : Char) : Option Nat := if letter.isDigit then some (letter.toNat - '0'.toNat) else none

namespace Primitives

variable (primitives : Primitives)

/-- `String::from_utf8` -/
def fromUtf8 (bytes : Bytes) : Except UtilsError Text :=
  match bytes.toByteArray.utf8Decode? with
  | some text => .ok text.toList
  | none => .error (.cryptoError ("UTF-8 decode error: ".toList ++ primitives.utf8Error bytes))

def generatePasswordSalt (draw : Draw) : Text := (primitives.hexEncode draw.salt.1).take passwordSaltLength

def generateRandomPosition (draw : Draw) : UInt8 := draw.position % 10 + 1

def generateKey (password salt : Text) : Bytes := primitives.sha256 (asBytes password ++ asBytes salt)

def encrypt (draw : Draw) (data : Text) (key : Bytes) : Except UtilsError Text :=
  match primitives.cbcEncrypt key draw.iv.1 (asBytes data) with
  | .error error => .error error.toUtilsError
  | .ok encrypted => .ok (primitives.hexEncode (draw.iv.1 ++ encrypted))

def decrypt (encryptedData : Text) (key : Bytes) : Except UtilsError Text :=
  match primitives.hexDecode encryptedData with
  | .error text => .error (.cryptoError ("Hex decode error: ".toList ++ text))
  | .ok bytes =>
      if bytes.length < 16 then .error (.cryptoError "Invalid encrypted data".toList)
      else
        match primitives.cbcDecrypt key (bytes.take 16) (bytes.drop 16) with
        | .error error => .error error.toUtilsError
        | .ok data => primitives.fromUtf8 data

/-- `insert_str` -/
def insertStr (text : Text) (offset : Nat) (inserted : Text) : Option Text :=
  (cut text offset).map fun sides => sides.1 ++ inserted ++ sides.2

def encryptPassword (draw : Draw) (password : Text) : Option (Except UtilsError Text) :=
  if encryptedPasswordLength ≤ byteLength password then some (.ok password)
  else
    let salt := primitives.generatePasswordSalt draw
    let key := primitives.generateKey primitives.cryptoSecret salt
    match primitives.encrypt draw password key with
    | .error error => some (.error error)
    | .ok encrypted =>
        let pos := (generateRandomPosition draw - 1).toNat
        (if pos < byteLength encrypted then insertStr encrypted pos salt
          else some (encrypted ++ salt)).map fun encrypted => .ok (Nat.toDigits 10 pos ++ encrypted)

def decryptPassword (encryptedPassword : Text) : Option (Except UtilsError Text) :=
  if byteLength encryptedPassword ≠ encryptedPasswordLength then some (.ok encryptedPassword)
  else
    match encryptedPassword with
    | [] => some (.error (.cryptoError "Encrypted password is empty".toList))
    | first :: _ =>
        match toDigit first with
        | none => some (.error (.cryptoError "Invalid encrypted password format".toList))
        | some position =>
            if 9 < position then some (.error (.cryptoError "Invalid encrypted password format".toList))
            else do
              let (_, remaining) ← cut encryptedPassword 1
              if byteLength remaining < position + passwordSaltLength then
                some (.error (.cryptoError
                  "Invalid salt position (salt would exceed encrypted data length)".toList))
              else
                let salt ← slice remaining position (position + passwordSaltLength)
                let (front, _) ← cut remaining position
                let (_, back) ← cut remaining (position + passwordSaltLength)
                some (primitives.decrypt (front ++ back) (primitives.generateKey primitives.cryptoSecret salt))

end Primitives

/-- What the parameters are: PKCS padding fills up to the next block, except that the engine emits
no block where there are no data; decryption inverts encryption; and two ASCII digits stand for a
byte. -/
structure Lawful (primitives : Primitives) : Prop where
  digest : ∀ data, (primitives.sha256 data).length = 32
  cipherEmpty : ∀ key iv : Bytes, key.length = 32 → iv.length = 16 → primitives.cbcEncrypt key iv [] = .ok []
  cipher : ∀ key iv data : Bytes, key.length = 32 → iv.length = 16 → data ≠ [] →
    ∃ encrypted, primitives.cbcEncrypt key iv data = .ok encrypted ∧
      encrypted.length = (data.length / 16 + 1) * 16 ∧ primitives.cbcDecrypt key iv encrypted = .ok data
  hexLength : ∀ bytes, (primitives.hexEncode bytes).length = 2 * bytes.length
  hexSingle : ∀ bytes, ∀ letter ∈ primitives.hexEncode bytes, letter.utf8Size = 1
  hexInverse : ∀ bytes, primitives.hexDecode (primitives.hexEncode bytes) = .ok bytes

end Terrasync.Utils
