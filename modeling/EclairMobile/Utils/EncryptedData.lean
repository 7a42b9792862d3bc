import EclairMobile.Utils.AesCbcWithIntegrity

/-!
# EncryptedData, EncryptedBackup and EncryptedSeed

The two encrypted formats.  A backup is its version, the initialization vector, the MAC and the
cipher text; a seed file has a salt behind its version.  The content of a backup is compressed from
version 3 on.
-/

namespace EclairMobile

open Lib AesCbcWithIntegrity

/-- An array of 32 bytes. -/
structure ByteVector32 where
  bytes : Bytes
  length_eq : bytes.length = 32

/-- What the two formats share.  The salt of a backup is null, so only a seed has the field. -/
structure EncryptedData where
  version : ℤ
  civ : CipherTextIvMac
  deriving DecidableEq, Repr

namespace EncryptedData

/-- The first half of a backup key encrypts, the second authenticates. -/
def secretKeyFromBinaryKey (key : ByteVector32) : SecretKeys :=
  { confidentialityKey := key.bytes.take 16
    integrityKey := (key.bytes.drop 16).take 16 }

theorem length_secretKeyFromBinaryKey (key : ByteVector32) :
    (secretKeyFromBinaryKey key).confidentialityKey.length = AES_KEY_LENGTH_BITS / 8 := by
  simp [secretKeyFromBinaryKey, key.length_eq, AES_KEY_LENGTH_BITS]

/-- `ByteArrayOutputStream.write(int)`, which keeps the low 8 bits. -/
def writeByte (b : ℤ) : Bytes := [UInt8.ofInt b]

@[simp] theorem writeByte_toNat (b : UInt8) : writeByte b.toNat = [b] := by
  have hlt := b.toNat_lt
  have hmod : ((b.toNat : ℤ) % 2 ^ 8).toNat = b.toNat := by omega
  rw [writeByte, UInt8.ofInt, hmod, UInt8.ofNat_toNat]

/-! ### The tail of both formats -/

/-- The vector, the MAC, and the cipher text up to the end of the stream. -/
def readCiv (ivLength macLength : ℕ) (stream : ByteStream) : CipherTextIvMac :=
  let (iv, stream) := stream.readBuffer ivLength
  let (mac, stream) := stream.readBuffer macLength
  let (cipher, _) := stream.readBuffer stream.available
  ⟨cipher, iv, mac⟩

def writeCiv (civ : CipherTextIvMac) : Bytes := civ.iv ++ civ.mac ++ civ.cipherText

theorem readCiv_writeCiv {ivLength macLength : ℕ} {civ : CipherTextIvMac}
    (hiv : civ.iv.length = ivLength) (hmac : civ.mac.length = macLength) :
    readCiv ivLength macLength ⟨writeCiv civ⟩ = civ := by
  unfold readCiv writeCiv
  rw [List.append_assoc, ByteStream.readBuffer_append hiv]
  simp only [ByteStream.readBuffer_append hmac, ByteStream.readBuffer_available]

@[simp] theorem length_iv_readCiv (ivLength macLength : ℕ) (stream : ByteStream) :
    (readCiv ivLength macLength stream).iv.length = ivLength :=
  ByteStream.length_readBuffer stream ivLength

/-- What stands behind the cipher text becomes part of it. -/
theorem readCiv_writeCiv_append {ivLength macLength : ℕ} {civ : CipherTextIvMac}
    (hiv : civ.iv.length = ivLength) (hmac : civ.mac.length = macLength) (tail : Bytes) :
    readCiv ivLength macLength ⟨writeCiv civ ++ tail⟩ =
      { civ with cipherText := civ.cipherText ++ tail } := by
  have h : writeCiv civ ++ tail = writeCiv { civ with cipherText := civ.cipherText ++ tail } := by
    simp [writeCiv]
  rw [h, readCiv_writeCiv]
  · exact hiv
  · exact hmac

end EncryptedData

open EncryptedData

/-! ### Backups -/

structure EncryptedBackup extends EncryptedData
  deriving DecidableEq, Repr

namespace EncryptedBackup

def BACKUP_VERSION_1 : ℤ := 1
def BACKUP_VERSION_2 : ℤ := 2
def BACKUP_VERSION_3 : ℤ := 3
def IV_LENGTH_V1 : ℕ := 16
def MAC_LENGTH_V1 : ℕ := 32

/-- The versions that are read and written. -/
def Handled (version : ℤ) : Prop :=
  version = BACKUP_VERSION_1 ∨ version = BACKUP_VERSION_2 ∨ version = BACKUP_VERSION_3

instance (version : ℤ) : Decidable (Handled version) := by unfold Handled; infer_instance

variable (c : Crypto)

def compressByteArray (data : Bytes) : Bytes := c.deflate data

def decompressByteArray (data : Bytes) : Except Throwable Bytes :=
  match c.inflate data with
  | some result => .ok result
  | none => .error (.ioException "invalid zlib stream")

def encrypt (data : Bytes) (key : SecretKeys) (version : ℤ) (iv : RandomBytes IV_LENGTH_BYTES) :
    EncryptedBackup :=
  let finalData := if version ≥ BACKUP_VERSION_3 then compressByteArray c data else data
  let civ := AesCbcWithIntegrity.encrypt c finalData key iv
  { version := version, civ := civ }

def decrypt (backup : EncryptedBackup) (key : SecretKeys) : Except Throwable Bytes := do
  let decryptedData ← AesCbcWithIntegrity.decrypt c backup.civ key
  if backup.version ≥ BACKUP_VERSION_3 then decompressByteArray c decryptedData
  else .ok decryptedData

def read (serialized : Bytes) : Except Throwable EncryptedBackup :=
  let (version, stream) := ByteStream.read ⟨serialized⟩
  if Handled version then
    .ok { version := version, civ := readCiv IV_LENGTH_V1 MAC_LENGTH_V1 stream }
  else .error (.runtimeException "unhandled encrypted backup version")

def write (backup : EncryptedBackup) : Except Throwable Bytes :=
  if Handled backup.version then
    if backup.civ.iv.length ≠ IV_LENGTH_V1 ∨ backup.civ.mac.length ≠ MAC_LENGTH_V1 then
      .error (.runtimeException
        "could not serialize backup because fields are not of the correct length")
    else .ok (writeByte backup.version ++ writeCiv backup.civ)
  else .error (.runtimeException "unhandled version")

end EncryptedBackup

/-! ### Seeds -/

structure EncryptedSeed extends EncryptedData where
  salt : Bytes
  deriving DecidableEq, Repr

namespace EncryptedSeed

def SEED_FILE_VERSION_1 : ℤ := 1
def SEED_FILE_VERSION_2 : ℤ := 2
def SALT_LENGTH_V1 : ℕ := 128
def IV_LENGTH_V1 : ℕ := 16
def MAC_LENGTH_V1 : ℕ := 32

/-- The versions that are read and written. -/
def Handled (version : ℤ) : Prop :=
  version = SEED_FILE_VERSION_1 ∨ version = SEED_FILE_VERSION_2

instance (version : ℤ) : Decidable (Handled version) := by unfold Handled; infer_instance

variable (c : Crypto)

def decrypt (seed : EncryptedSeed) (password : String) : Except Throwable Bytes :=
  let sk := generateKeyFromPassword c password seed.salt
  AesCbcWithIntegrity.decrypt c seed.civ sk

def encrypt (seed : Bytes) (password : String) (version : ℤ)
    (salt : RandomBytes PBE_SALT_LENGTH_BITS) (iv : RandomBytes IV_LENGTH_BYTES) :
    EncryptedSeed :=
  let sk := generateKeyFromPassword c password salt
  let civ := AesCbcWithIntegrity.encrypt c seed sk iv
  { version := version, salt := salt, civ := civ }

def read (serialized : Bytes) : Except Throwable EncryptedSeed :=
  let (version, stream) := ByteStream.read ⟨serialized⟩
  if Handled version then
    let (salt, stream) := stream.readBuffer SALT_LENGTH_V1
    .ok { version := version, salt := salt, civ := readCiv IV_LENGTH_V1 MAC_LENGTH_V1 stream }
  else .error (.runtimeException "unhandled encrypted seed file version")

def write (seed : EncryptedSeed) : Except Throwable Bytes :=
  if Handled seed.version then
    if seed.salt.length ≠ SALT_LENGTH_V1 ∨ seed.civ.iv.length ≠ IV_LENGTH_V1 ∨
        seed.civ.mac.length ≠ MAC_LENGTH_V1 then
      .error (.runtimeException
        "could not serialize seed because fields are not of the right length")
    else .ok (writeByte seed.version ++ seed.salt ++ writeCiv seed.civ)
  else .error (.runtimeException s!"unhandled version={seed.version}")

end EncryptedSeed

end EclairMobile
