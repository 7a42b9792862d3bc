import EclairMobile.Lib.Except
import EclairMobile.Utils.WalletUtils

/-!
# The files of the wallet, written and read again

A backup or a seed that was written is read back as it was, for every version.  A file that was
changed is refused by the check of the MAC, with one exception: the version in the first byte is not
under the MAC, and it says how the content is to be understood.
-/

namespace EclairMobile

open Lib AesCbcWithIntegrity EncryptedData

/-! ### The keys of a wallet -/

/-- The derivation path of a backup key, `m/49'` first and `m/42'/0'` or `m/42'/1'` later. -/
inductive KeyGeneration
  | v1
  | v2
  deriving DecidableEq, Repr

/-- `app.backupKey_v1` and `app.backupKey_v2`. -/
structure BackupKeys where
  backupKey_v1 : ByteVector32
  backupKey_v2 : ByteVector32

def BackupKeys.secretKeys (app : BackupKeys) : KeyGeneration → SecretKeys
  | .v1 => secretKeyFromBinaryKey app.backupKey_v1
  | .v2 => secretKeyFromBinaryKey app.backupKey_v2

/-- The generation that goes with a format version when it is written. -/
def EncryptedBackup.keyGeneration (version : ℤ) : KeyGeneration :=
  if version = BACKUP_VERSION_2 ∨ version = BACKUP_VERSION_3 then .v2 else .v1

/-- The generation that `decryptFile` takes for a version it found. -/
def RestoreChannelsBackupActivity.keyFor (version : ℤ) : KeyGeneration :=
  if EncryptedBackup.BACKUP_VERSION_1 = version then .v1 else .v2

/-- Reading and decrypting the content of a backup file. -/
def RestoreChannelsBackupActivity.decryptFile (c : Crypto) (app : BackupKeys) (content : Bytes) :
    Except Throwable Bytes := do
  let encryptedContent ← EncryptedBackup.read content
  encryptedContent.decrypt c (app.secretKeys (keyFor encryptedContent.version))

/-- The data directory that holds a seed file. -/
def datadirWith (content : Bytes) : Datadir :=
  some (Function.update (fun _ => none) WalletUtils.SEED_NAME (some content))

/-- Reading, decrypting and decoding a seed file, as it is done at startup. -/
def openSeedFile (c : Crypto) (d : SeedDecoders) (content : Bytes) (password : String) :
    Except Throwable Bytes := do
  let (seed, blob) ← WalletUtils.readSeedAndDecrypt c (datadirWith content) password
  WalletUtils.decodeSeed d seed blob

open RestoreChannelsBackupActivity

/-! ### Backups: writing and reading -/

namespace EncryptedBackup

variable {c : Crypto} {backup : EncryptedBackup} {content : Bytes}

theorem write_ok_iff : backup.write = .ok content ↔ Handled backup.version ∧
    backup.civ.iv.length = IV_LENGTH_V1 ∧ backup.civ.mac.length = MAC_LENGTH_V1 ∧
      content = writeByte backup.version ++ writeCiv backup.civ := by
  unfold write
  split_ifs with hv hl
  · simp only [false_iff]
    rintro ⟨-, hiv, hmac, -⟩
    exact hl.elim (absurd hiv) (absurd hmac)
  · rw [not_or, not_not, not_not] at hl
    simp [hv, hl, eq_comm]
  · simp [hv]

theorem toNat_ofInt {version : ℤ} (h : Handled version) :
    ((UInt8.ofInt version).toNat : ℤ) = version := by
  rcases h with rfl | rfl | rfl <;> rfl

theorem read_cons (b : UInt8) (rest : Bytes) : read (b :: rest) =
    if Handled b.toNat then
      .ok { version := b.toNat, civ := readCiv IV_LENGTH_V1 MAC_LENGTH_V1 ⟨rest⟩ }
    else .error (.runtimeException "unhandled encrypted backup version") := rfl

theorem read_writeByte {version : ℤ} (h : Handled version) (rest : Bytes) :
    read (writeByte version ++ rest) =
      .ok { version := version, civ := readCiv IV_LENGTH_V1 MAC_LENGTH_V1 ⟨rest⟩ } := by
  simp [writeByte, read_cons, toNat_ofInt h, h]

/-- **A written backup is read back.** -/
theorem read_of_write (h : backup.write = .ok content) : read content = .ok backup := by
  obtain ⟨hv, hiv, hmac, rfl⟩ := write_ok_iff.mp h
  rw [read_writeByte hv, readCiv_writeCiv hiv hmac]

theorem of_read_ok (h : read content = .ok backup) : Handled backup.version ∧
    backup.civ.iv.length = IV_LENGTH_V1 ∧ content.take 1 = writeByte backup.version := by
  obtain _ | ⟨b, rest⟩ := content
  · simp [read, Handled, BACKUP_VERSION_1, BACKUP_VERSION_2, BACKUP_VERSION_3] at h
  · rw [read_cons] at h
    split_ifs at h with hv
    cases h
    exact ⟨hv, length_iv_readCiv _ _ _, by simp⟩

theorem write_encrypt (hc : c.Lawful) {version : ℤ} (hv : Handled version) (data : Bytes)
    (key : SecretKeys) (iv : RandomBytes IV_LENGTH_BYTES) :
    ∃ content, (encrypt c data key version iv).write = .ok content :=
  ⟨_, write_ok_iff.mpr ⟨hv, iv.2, hc.length_hmac _ _, rfl⟩⟩

/-- Compression is undone for the versions that use it. -/
theorem decrypt_encrypt (hc : c.Lawful) {key : SecretKeys}
    (hk : key.confidentialityKey.length = AES_KEY_LENGTH_BITS / 8) (data : Bytes) (version : ℤ)
    (iv : RandomBytes IV_LENGTH_BYTES) :
    (encrypt c data key version iv).decrypt c key = .ok data := by
  have h := AesCbcWithIntegrity.decrypt_encrypt hc hk
    (if version ≥ BACKUP_VERSION_3 then compressByteArray c data else data) iv
  simp only [decrypt, encrypt, h]
  show (if version ≥ BACKUP_VERSION_3 then _ else _ : Except Throwable Bytes) = _
  split_ifs
  · simp [decompressByteArray, compressByteArray, hc.inflate_deflate]
  · rfl

/-- The reader takes the key of the writer. -/
theorem keyFor_eq {version : ℤ} (h : Handled version) : keyFor version = keyGeneration version := by
  rcases h with rfl | rfl | rfl <;> rfl

end EncryptedBackup

/-! ### Seeds: writing and reading -/

namespace EncryptedSeed

variable {c : Crypto} {seed : EncryptedSeed} {content : Bytes}

theorem write_ok_iff : seed.write = .ok content ↔ Handled seed.version ∧
    seed.salt.length = SALT_LENGTH_V1 ∧ seed.civ.iv.length = IV_LENGTH_V1 ∧
      seed.civ.mac.length = MAC_LENGTH_V1 ∧
        content = writeByte seed.version ++ seed.salt ++ writeCiv seed.civ := by
  unfold write
  split_ifs with hv hl
  · simp only [false_iff]
    rintro ⟨-, hsalt, hiv, hmac, -⟩
    exact hl.elim (absurd hsalt) (Or.elim · (absurd hiv) (absurd hmac))
  · rw [not_or, not_or, not_not, not_not, not_not] at hl
    simp [hv, hl, eq_comm]
  · simp [hv]

theorem toNat_ofInt {version : ℤ} (h : Handled version) :
    ((UInt8.ofInt version).toNat : ℤ) = version := by
  rcases h with rfl | rfl <;> rfl

theorem read_cons (b : UInt8) (rest : Bytes) : read (b :: rest) =
    if Handled b.toNat then
      let (salt, stream) := ByteStream.readBuffer ⟨rest⟩ SALT_LENGTH_V1
      .ok { version := b.toNat, salt := salt, civ := readCiv IV_LENGTH_V1 MAC_LENGTH_V1 stream }
    else .error (.runtimeException "unhandled encrypted seed file version") := rfl

theorem read_writeByte {version : ℤ} (h : Handled version) {salt : Bytes}
    (hsalt : salt.length = SALT_LENGTH_V1) (rest : Bytes) :
    read (writeByte version ++ salt ++ rest) = .ok
      { version := version, salt := salt, civ := readCiv IV_LENGTH_V1 MAC_LENGTH_V1 ⟨rest⟩ } := by
  simp [writeByte, read_cons, toNat_ofInt h, h, ByteStream.readBuffer_append hsalt]

/-- **A written seed is read back.** -/
theorem read_of_write (h : seed.write = .ok content) : read content = .ok seed := by
  obtain ⟨hv, hsalt, hiv, hmac, rfl⟩ := write_ok_iff.mp h
  rw [read_writeByte hv hsalt, readCiv_writeCiv hiv hmac]

theorem of_read_ok (h : read content = .ok seed) : Handled seed.version ∧
    seed.civ.iv.length = IV_LENGTH_V1 ∧ content.take 1 = writeByte seed.version := by
  obtain _ | ⟨b, rest⟩ := content
  · simp [read, Handled, SEED_FILE_VERSION_1, SEED_FILE_VERSION_2] at h
  · rw [read_cons] at h
    split_ifs at h with hv
    cases h
    exact ⟨hv, length_iv_readCiv _ _ _, by simp⟩

theorem write_encrypt (hc : c.Lawful) {version : ℤ} (hv : Handled version) (data : Bytes)
    (password : String) (salt : RandomBytes PBE_SALT_LENGTH_BITS)
    (iv : RandomBytes IV_LENGTH_BYTES) :
    ∃ content, (encrypt c data password version salt iv).write = .ok content :=
  ⟨_, write_ok_iff.mpr ⟨hv, salt.2, iv.2, hc.length_hmac _ _, rfl⟩⟩

theorem decrypt_encrypt (hc : c.Lawful) (data : Bytes) (password : String) (version : ℤ)
    (salt : RandomBytes PBE_SALT_LENGTH_BITS) (iv : RandomBytes IV_LENGTH_BYTES) :
    (encrypt c data password version salt iv).decrypt c password = .ok data :=
  AesCbcWithIntegrity.decrypt_encrypt hc (length_confidentialityKey hc password salt) data iv

end EncryptedSeed

/-! ### Known answers for a backup and a seed file -/

namespace Known

def key1 : ByteVector32 := ⟨(List.range 32).map UInt8.ofNat, by decide⟩
def key2 : ByteVector32 := ⟨(List.range' 32 32).map UInt8.ofNat, by decide⟩
def iv : RandomBytes IV_LENGTH_BYTES := ⟨(List.range 16).map UInt8.ofNat, by decide⟩
def salt : RandomBytes PBE_SALT_LENGTH_BITS := ⟨List.replicate 128 7, List.length_replicate⟩
def pin : String := "123456"

/-- The text `eclair`. -/
def content : Bytes := [101, 99, 108, 97, 105, 114]

def hexDigit (n : UInt8) : UInt8 := if n < 10 then n + 48 else n + 87

/-- `content`, deflated. -/
def packed : Bytes :=
  [120, 156, 75, 77, 206, 73, 204, 44, 2, 0, 8, 106, 2, 113]

/-- `packed`, encrypted under the first half of the second key. -/
def backupCipher : Bytes :=
  [185, 65, 234, 46, 32, 121, 129, 199, 208, 177, 73, 69, 241, 169, 95, 247]

/-- Its HMAC under the second half. -/
def backupMac : RandomBytes 32 :=
  ⟨[192, 172, 245, 104, 196, 157, 1, 36, 73, 77, 27, 229, 0, 169, 107, 45, 120, 3, 57, 68, 168,
   41, 125, 54, 117, 69, 17, 223, 217, 117, 169, 215], by decide⟩

/-- The HMAC of the cipher text with another last byte. -/
def backupMac' : RandomBytes 32 :=
  ⟨[186, 83, 220, 121, 207, 69, 105, 188, 226, 167, 245, 253, 28, 177, 34, 206, 204, 202, 120,
   139, 144, 151, 47, 190, 12, 45, 8, 39, 153, 15, 78, 96], by decide⟩

/-- The keys derived from the PIN and the salt. -/
def seedKeys : RandomBytes 48 :=
  ⟨[111, 188, 27, 131, 118, 75, 120, 90, 115, 9, 11, 240, 122, 142, 67, 209, 0, 173, 133, 38,
   181, 16, 167, 80, 108, 18, 223, 238, 253, 225, 180, 192, 115, 50, 50, 126, 246, 81, 104, 142,
   66, 140, 176, 68, 227, 20, 117, 157], by decide⟩

/-- The JSON text with the mnemonic and the passphrase. -/
def json : Bytes :=
  [123, 10, 34, 119, 111, 114, 100, 115, 34, 58, 32, 34, 122, 111, 111, 32, 122, 111, 111, 32,
   122, 111, 111, 32, 122, 111, 111, 32, 122, 111, 111, 32, 122, 111, 111, 32, 122, 111, 111,
   32, 122, 111, 111, 32, 122, 111, 111, 32, 122, 111, 111, 32, 122, 111, 111, 32, 119, 114,
   111, 110, 103, 34, 44, 10, 34, 112, 97, 115, 115, 112, 104, 114, 97, 115, 101, 34, 58, 32,
   34, 34, 10, 125]

/-- `json`, in hexadecimal. -/
def blob : Bytes := json.flatMap fun b => [hexDigit (b / 16), hexDigit (b % 16)]

/-- The seed of the mnemonic. -/
def seed : Bytes :=
  [182, 166, 216, 146, 25, 66, 221, 152, 6, 96, 126, 188, 39, 80, 65, 107, 40, 154, 222, 166,
   105, 25, 135, 105, 242, 225, 94, 217, 38, 195, 170, 146, 191, 136, 236, 226, 50, 49, 123, 78,
   164, 99, 232, 75, 15, 205, 59, 83, 87, 120, 18, 238, 68, 156, 204, 68, 142, 180, 94, 111, 84,
   78, 37, 182]

/-- `blob`, encrypted. -/
def seedCipher : Bytes :=
  [100, 155, 227, 129, 189, 34, 26, 181, 73, 61, 83, 77, 49, 251, 132, 167, 157, 13, 221, 111,
   149, 73, 34, 206, 121, 206, 113, 53, 160, 64, 46, 41, 207, 25, 123, 100, 52, 119, 4, 151, 97,
   181, 95, 183, 229, 76, 226, 172, 168, 170, 101, 142, 2, 147, 86, 56, 200, 140, 109, 197, 130,
   237, 53, 27, 104, 155, 185, 24, 200, 80, 158, 246, 161, 217, 232, 244, 114, 167, 198, 209,
   16, 194, 114, 180, 134, 0, 179, 10, 213, 81, 119, 170, 241, 203, 216, 46, 103, 153, 114, 254,
   235, 160, 74, 141, 201, 103, 132, 143, 166, 11, 69, 17, 187, 42, 232, 119, 91, 11, 19, 142,
   64, 175, 236, 89, 127, 5, 105, 125, 211, 144, 81, 212, 51, 83, 238, 208, 193, 186, 205, 183,
   163, 137, 126, 138, 117, 102, 33, 20, 55, 245, 189, 131, 246, 243, 133, 215, 54, 196, 151,
   122, 189, 241, 66, 135, 25, 73, 167, 54, 141, 150, 65, 193, 174, 125, 202, 202]

/-- Its HMAC. -/
def seedMac : RandomBytes 32 :=
  ⟨[11, 147, 191, 234, 182, 18, 249, 108, 3, 35, 97, 75, 56, 16, 141, 39, 141, 74, 111, 154, 40,
   40, 241, 26, 23, 49, 134, 220, 227, 153, 74, 123], by decide⟩

/-- The HMAC of the cipher text with another last byte. -/
def seedMac' : RandomBytes 32 :=
  ⟨[28, 104, 223, 219, 85, 241, 173, 223, 186, 183, 41, 84, 222, 47, 201, 67, 18, 183, 63, 185,
   157, 238, 131, 189, 228, 88, 251, 246, 226, 85, 226, 243], by decide⟩

/-- The bytes with another last one. -/
def tamper (bytes : Bytes) : Bytes := bytes.modify (bytes.length - 1) (· ^^^ 1)

/-- The file with another version. -/
def withVersion (version : UInt8) (file : Bytes) : Bytes := version :: file.drop 1

def keys : BackupKeys := ⟨key1, key2⟩

def answers : KnownAnswers where
  aes :=
    [((key2.bytes.take 16, iv), packed, backupCipher),
      ((seedKeys.1.take 16, iv), blob, seedCipher)]
  hmac :=
    [((key2.bytes.drop 16, iv ++ backupCipher), backupMac),
      ((key2.bytes.drop 16, iv ++ tamper backupCipher), backupMac'),
      ((seedKeys.1.drop 16, iv ++ seedCipher), seedMac),
      ((seedKeys.1.drop 16, iv ++ tamper seedCipher), seedMac')]
  pbkdf2 := [((pin, salt), seedKeys)]
  zlib := [(content, packed)]

def crypto : Crypto := Crypto.ofKnown answers

/-- The decoders at `blob`. -/
def decoders : SeedDecoders where
  hexDecode bytes :=
    if bytes = blob then .ok json else .error (.runtimeException "invalid characters encountered")
  utf8 bytes := String.ofList (bytes.map fun b => Char.ofNat b.toNat)
  getString _ name :=
    if name = "words" then .ok "zoo zoo zoo zoo zoo zoo zoo zoo zoo zoo zoo wrong" else .ok ""
  mnemonicCodeToSeed _ _ := .ok seed

/-- The backup of `content`. -/
def backupFile : Bytes := writeByte 3 ++ iv ++ backupMac ++ backupCipher

/-- The seed file of `blob`. -/
def seedFile : Bytes := writeByte 2 ++ salt ++ iv ++ seedMac ++ seedCipher

theorem write_backup : (EncryptedBackup.encrypt crypto content (keys.secretKeys .v2) 3 iv).write =
    .ok backupFile := by decide +kernel

theorem write_seed : (EncryptedSeed.encrypt crypto blob pin 2 salt iv).write = .ok seedFile := by
  decide +kernel

end Known

section

variable {c : Crypto}

theorem decryptFile_of_write (hc : c.Lawful) {app : BackupKeys} {data content : Bytes} {version : ℤ}
    {iv : RandomBytes IV_LENGTH_BYTES}
    (hw : (EncryptedBackup.encrypt c data (app.secretKeys (EncryptedBackup.keyGeneration version))
      version iv).write = .ok content) : decryptFile c app content = .ok data := by
  have hv : EncryptedBackup.Handled version := (EncryptedBackup.write_ok_iff.mp hw).1
  have hk : (app.secretKeys (EncryptedBackup.keyGeneration version)).confidentialityKey.length =
      AES_KEY_LENGTH_BITS / 8 := by
    cases EncryptedBackup.keyGeneration version
    · exact length_secretKeyFromBinaryKey _
    · exact length_secretKeyFromBinaryKey _
  unfold decryptFile
  rw [EncryptedBackup.read_of_write hw]
  show EncryptedBackup.decrypt c _ (app.secretKeys (keyFor version)) = .ok data
  rw [EncryptedBackup.keyFor_eq hv]
  exact EncryptedBackup.decrypt_encrypt hc hk data version iv

/-- **Both formats are read back as they were written**, for every version, content, key and
password. -/
theorem fileRoundTrip (hc : c.Lawful) :
    (∀ (app : BackupKeys) (data : Bytes) (version : ℤ) (iv : RandomBytes IV_LENGTH_BYTES),
      EncryptedBackup.Handled version →
        ((EncryptedBackup.encrypt c data (app.secretKeys (EncryptedBackup.keyGeneration version))
          version iv).write >>= decryptFile c app) = .ok data) ∧
    (∀ (data : Bytes) (password : String) (version : ℤ) (salt : RandomBytes PBE_SALT_LENGTH_BITS)
      (iv : RandomBytes IV_LENGTH_BYTES), EncryptedSeed.Handled version →
        ∃ seed, ((EncryptedSeed.encrypt c data password version salt iv).write >>=
            EncryptedSeed.read) = .ok seed ∧
          seed.version = version ∧ seed.decrypt c password = .ok data) := by
  constructor
  · intro app data version iv hv
    obtain ⟨content, hw⟩ := EncryptedBackup.write_encrypt hc hv data
      (app.secretKeys (EncryptedBackup.keyGeneration version)) iv
    rw [hw]
    exact decryptFile_of_write hc hw
  · intro data password version salt iv hv
    obtain ⟨content, hw⟩ := EncryptedSeed.write_encrypt hc hv data password salt iv
    refine ⟨EncryptedSeed.encrypt c data password version salt iv, ?_, rfl,
      EncryptedSeed.decrypt_encrypt hc data password version salt iv⟩
    rw [hw]
    exact EncryptedSeed.read_of_write hw

/-- Backup version 3 and seed version 2. -/
theorem fileRoundTrip_known :
    ((EncryptedBackup.encrypt Known.crypto Known.content
        (Known.keys.secretKeys (EncryptedBackup.keyGeneration 3)) 3 Known.iv).write >>=
      decryptFile Known.crypto Known.keys) = .ok Known.content ∧
    ∃ seed, ((EncryptedSeed.encrypt Known.crypto Known.blob Known.pin 2 Known.salt Known.iv).write
        >>= EncryptedSeed.read) = .ok seed ∧
      seed.version = 2 ∧ seed.decrypt Known.crypto Known.pin = .ok Known.blob :=
  ⟨(fileRoundTrip (Crypto.ofKnown_lawful Known.answers)).1 Known.keys Known.content 3 Known.iv
      (by decide),
    (fileRoundTrip (Crypto.ofKnown_lawful Known.answers)).2 Known.blob Known.pin 2 Known.salt
      Known.iv (by decide)⟩

/-! ### Files that were changed -/

/-- The first bytes of the two files are `a` and `b`, in one order or the other. -/
def VersionsSwapped (a b : UInt8) (content content' : Bytes) : Prop :=
  (content.take 1 = [a] ∧ content'.take 1 = [b]) ∨ (content.take 1 = [b] ∧ content'.take 1 = [a])

instance (a b : UInt8) (content content' : Bytes) :
    Decidable (VersionsSwapped a b content content') := by unfold VersionsSwapped; infer_instance

variable (c) in
/-- The MAC is ideal where a changed backup is read with the keys of the wallet. -/
def BackupUnforged (app : BackupKeys) (content content' : Bytes) : Prop :=
  ∀ backup backup', EncryptedBackup.read content = .ok backup →
    EncryptedBackup.read content' = .ok backup' →
      Unforged c app.secretKeys (keyFor backup.version) backup.civ (keyFor backup'.version)
        backup'.civ

variable (c) in
/-- The MAC is ideal where a changed seed file is read with the same password. -/
def SeedUnforged (password : String) (content content' : Bytes) : Prop :=
  ∀ seed seed', EncryptedSeed.read content = .ok seed → EncryptedSeed.read content' = .ok seed' →
    Unforged c (generateKeyFromPassword c password) seed.salt seed.civ seed'.salt seed'.civ

theorem decryptFile_changed {app : BackupKeys} {backup : EncryptedBackup}
    {content content' data' : Bytes} (hw : backup.write = .ok content)
    (ha : Authentic c backup.civ (app.secretKeys (keyFor backup.version)))
    (hu : BackupUnforged c app content content') (h : decryptFile c app content' = .ok data') :
    ∃ version', EncryptedBackup.read content' = .ok { version := version', civ := backup.civ } ∧
      keyFor version' = keyFor backup.version := by
  obtain ⟨backup', hr, h⟩ := bind_eq_ok_iff.mp h
  obtain ⟨decryptedData, hd, -⟩ := bind_eq_ok_iff.mp h
  have ha' : Authentic c backup'.civ (app.secretKeys (keyFor backup'.version)) :=
    authentic_of_decrypt hd
  obtain ⟨hk, hciv⟩ := (hu _ _ (EncryptedBackup.read_of_write hw) hr).eq ha ha'
    ((EncryptedBackup.of_read_ok hr).2.1.trans (EncryptedBackup.write_ok_iff.mp hw).2.1.symm)
  refine ⟨backup'.version, ?_, hk⟩
  rw [hr, ← hciv]

/-- Two versions with one key generation are the same, or 2 and 3. -/
theorem swapped_of_keyFor {version version' : ℤ} (hv : EncryptedBackup.Handled version)
    (hv' : EncryptedBackup.Handled version') (hk : keyFor version' = keyFor version)
    (hne : version' ≠ version) :
    version = 2 ∧ version' = 3 ∨ version = 3 ∧ version' = 2 := by
  rcases hv with rfl | rfl | rfl <;> rcases hv' with rfl | rfl | rfl <;>
    first | exact absurd rfl hne | exact absurd hk (by decide) | decide

/-- A changed backup fails, or gives what the written one gives, or exchanges versions 2 and 3. -/
theorem backup_integrity {app : BackupKeys} {backup : EncryptedBackup} {content content' : Bytes}
    (hw : backup.write = .ok content)
    (ha : Authentic c backup.civ (app.secretKeys (keyFor backup.version)))
    (hu : BackupUnforged c app content content') :
    (∃ t, decryptFile c app content' = .error t) ∨
      decryptFile c app content' = decryptFile c app content ∨
        (VersionsSwapped 2 3 content content' ∧
          decryptFile c app content' =
            decryptFile c app (content'.take 1 ++ content.drop 1)) := by
  cases h : decryptFile c app content' with
  | error t => exact .inl ⟨t, rfl⟩
  | ok data' =>
    obtain ⟨version', hr', hk⟩ := decryptFile_changed hw ha hu h
    obtain ⟨hv, -, -, hcontent⟩ := EncryptedBackup.write_ok_iff.mp hw
    obtain ⟨hv', -, htake'⟩ := EncryptedBackup.of_read_ok hr'
    by_cases hver : version' = backup.version
    · have hsame : EncryptedBackup.read content' = EncryptedBackup.read content := by
        rw [hr', EncryptedBackup.read_of_write hw, hver]
      exact .inr (.inl (by rw [← h, decryptFile, decryptFile, hsame]))
    · -- the content is that of the written file, behind another version
      have htake : content.take 1 = writeByte backup.version := by rw [hcontent]; rfl
      have hsame : EncryptedBackup.read (content'.take 1 ++ content.drop 1) =
          EncryptedBackup.read content' := by
        have hdrop : content.drop 1 = writeCiv backup.civ := by rw [hcontent]; rfl
        rw [htake', hdrop, hr']
        exact EncryptedBackup.read_of_write (EncryptedBackup.write_ok_iff.mpr
          ⟨hv', (EncryptedBackup.write_ok_iff.mp hw).2.1,
            (EncryptedBackup.write_ok_iff.mp hw).2.2.1, rfl⟩)
      refine .inr (.inr ⟨?_, by rw [← h, decryptFile, decryptFile, hsame]⟩)
      unfold VersionsSwapped
      rw [htake, htake']
      rcases swapped_of_keyFor hv hv' hk hver with ⟨e, rfl⟩ | ⟨e, rfl⟩
      · exact .inl ⟨by rw [e]; rfl, rfl⟩
      · exact .inr ⟨by rw [e]; rfl, rfl⟩

/-! ### Seed files that were changed -/

theorem openSeedFile_eq (d : SeedDecoders) (content : Bytes) (password : String) :
    openSeedFile c d content password = (do
      let seed ← EncryptedSeed.read content
      let blob ← seed.decrypt c password
      WalletUtils.decodeSeed d seed blob) := by
  have hr : WalletUtils.readSeedFile .ok (datadirWith content) WalletUtils.SEED_NAME =
      EncryptedSeed.read content := by
    simp [WalletUtils.readSeedFile, datadirWith, bind, Except.bind]
  unfold openSeedFile WalletUtils.readSeedAndDecrypt
  rw [hr, bind_assoc]
  refine congrArg (EncryptedSeed.read content >>= ·) (funext fun seed => ?_)
  exact bind_assoc _ _ _

theorem openSeedFile_congr {content content' : Bytes}
    (h : EncryptedSeed.read content = EncryptedSeed.read content') (d : SeedDecoders)
    (password : String) :
    openSeedFile c d content password = openSeedFile c d content' password := by
  rw [openSeedFile_eq, openSeedFile_eq, h]

theorem openSeedFile_changed {d : SeedDecoders} {password : String} {seed : EncryptedSeed}
    {content content' seed' : Bytes} (hw : seed.write = .ok content)
    (ha : Authentic c seed.civ (generateKeyFromPassword c password seed.salt))
    (hu : SeedUnforged c password content content')
    (h : openSeedFile c d content' password = .ok seed') :
    ∃ version', EncryptedSeed.read content' =
      .ok { version := version', salt := seed.salt, civ := seed.civ } := by
  rw [openSeedFile_eq] at h
  obtain ⟨read, hr, h⟩ := bind_eq_ok_iff.mp h
  obtain ⟨blob, hd, -⟩ := bind_eq_ok_iff.mp h
  have ha' : Authentic c read.civ (generateKeyFromPassword c password read.salt) :=
    authentic_of_decrypt hd
  obtain ⟨hsalt, hciv⟩ := (hu _ _ (EncryptedSeed.read_of_write hw) hr).eq ha ha'
    ((EncryptedSeed.of_read_ok hr).2.1.trans (EncryptedSeed.write_ok_iff.mp hw).2.2.1.symm)
  refine ⟨read.version, ?_⟩
  rw [hr, ← hciv, ← hsalt]

/-- A changed seed file fails, or gives the written seed, or exchanges versions 1 and 2. -/
theorem seed_integrity (d : SeedDecoders) {password : String} {seed : EncryptedSeed}
    {content content' : Bytes} (hw : seed.write = .ok content)
    (ha : Authentic c seed.civ (generateKeyFromPassword c password seed.salt))
    (hu : SeedUnforged c password content content') :
    (∃ t, openSeedFile c d content' password = .error t) ∨
      openSeedFile c d content' password = openSeedFile c d content password ∨
        (VersionsSwapped 1 2 content content' ∧
          openSeedFile c d content' password =
            openSeedFile c d (content'.take 1 ++ content.drop 1) password) := by
  cases h : openSeedFile c d content' password with
  | error t => exact .inl ⟨t, rfl⟩
  | ok seed' =>
    obtain ⟨version', hr'⟩ := openSeedFile_changed hw ha hu h
    obtain ⟨hv, hsalt, hiv, hmac, hcontent⟩ := EncryptedSeed.write_ok_iff.mp hw
    obtain ⟨hv', -, htake'⟩ := EncryptedSeed.of_read_ok hr'
    by_cases hver : version' = seed.version
    · have hsame : EncryptedSeed.read content' = EncryptedSeed.read content := by
        rw [hr', EncryptedSeed.read_of_write hw, hver]
      exact .inr (.inl (by rw [← h, openSeedFile_congr hsame]))
    · have htake : content.take 1 = writeByte seed.version := by rw [hcontent]; rfl
      have hsame : EncryptedSeed.read (content'.take 1 ++ content.drop 1) =
          EncryptedSeed.read content' := by
        have hdrop : content.drop 1 = seed.salt ++ writeCiv seed.civ := by rw [hcontent]; rfl
        rw [htake', hdrop, hr', ← List.append_assoc]
        exact EncryptedSeed.read_of_write
          (EncryptedSeed.write_ok_iff.mpr ⟨hv', hsalt, hiv, hmac, rfl⟩)
      refine .inr (.inr ⟨?_, by rw [← h, openSeedFile_congr hsame]⟩)
      unfold VersionsSwapped
      rw [htake, htake']
      rcases hv with e | e <;> rcases hv' with e' | e'
      · exact absurd (e'.trans e.symm) hver
      · exact .inl ⟨by rw [e]; rfl, by rw [e']; rfl⟩
      · exact .inr ⟨by rw [e]; rfl, by rw [e']; rfl⟩
      · exact absurd (e'.trans e.symm) hver

/-- **A changed file is refused or changes nothing**, unless exactly its version was exchanged for
the other version of the same keys.  Then it is read as the written file under that version. -/
theorem fileIntegrity (c : Crypto) (d : SeedDecoders) :
    (∀ (app : BackupKeys) (data : Bytes) (version : ℤ) (iv : RandomBytes IV_LENGTH_BYTES)
      (content content' : Bytes),
      (EncryptedBackup.encrypt c data (app.secretKeys (EncryptedBackup.keyGeneration version))
        version iv).write = .ok content → BackupUnforged c app content content' →
        (∃ t, decryptFile c app content' = .error t) ∨
          decryptFile c app content' = decryptFile c app content ∨
            (VersionsSwapped 2 3 content content' ∧
              decryptFile c app content' =
                decryptFile c app (content'.take 1 ++ content.drop 1))) ∧
    (∀ (data : Bytes) (password : String) (version : ℤ) (salt : RandomBytes PBE_SALT_LENGTH_BITS)
      (iv : RandomBytes IV_LENGTH_BYTES) (content content' : Bytes),
      (EncryptedSeed.encrypt c data password version salt iv).write = .ok content →
        SeedUnforged c password content content' →
        (∃ t, openSeedFile c d content' password = .error t) ∨
          openSeedFile c d content' password = openSeedFile c d content password ∨
            (VersionsSwapped 1 2 content content' ∧
              openSeedFile c d content' password =
                openSeedFile c d (content'.take 1 ++ content.drop 1) password)) := by
  constructor
  · intro app data version iv content content' hw hu
    have hv : EncryptedBackup.Handled version := (EncryptedBackup.write_ok_iff.mp hw).1
    refine backup_integrity hw ?_ hu
    show Authentic c _ (app.secretKeys (keyFor version))
    rw [EncryptedBackup.keyFor_eq hv]
    exact authentic_encrypt _ _ iv
  · intro data password version salt iv content content' hw hu
    exact seed_integrity d hw (authentic_encrypt _ _ iv) hu

end

/-- The MAC refuses another last byte. -/
theorem Known.backup_unforged :
    BackupUnforged Known.crypto Known.keys Known.backupFile (Known.tamper Known.backupFile) := by
  intro backup backup' hr hr' ha
  have e : EncryptedBackup.read (Known.tamper Known.backupFile) = .ok
      { version := 3, civ := ⟨Known.tamper Known.backupCipher, Known.iv, Known.backupMac⟩ } := by
    decide +kernel
  rw [e, Except.ok.injEq] at hr'
  subst hr'
  exact absurd ha (by decide +kernel)

theorem Known.seed_unforged :
    SeedUnforged Known.crypto Known.pin Known.seedFile (Known.tamper Known.seedFile) := by
  intro seed seed' hr hr' ha
  have e : EncryptedSeed.read (Known.tamper Known.seedFile) = .ok
      { version := 2, salt := Known.salt,
        civ := ⟨Known.tamper Known.seedCipher, Known.iv, Known.seedMac⟩ } := by
    decide +kernel
  rw [e, Except.ok.injEq] at hr'
  subst hr'
  exact absurd ha (by decide +kernel)

/-- The last byte of both files is changed. -/
theorem fileIntegrity_known :
    ((∃ t, decryptFile Known.crypto Known.keys (Known.tamper Known.backupFile) = .error t) ∨
      decryptFile Known.crypto Known.keys (Known.tamper Known.backupFile) =
        decryptFile Known.crypto Known.keys Known.backupFile ∨
      (VersionsSwapped 2 3 Known.backupFile (Known.tamper Known.backupFile) ∧
        decryptFile Known.crypto Known.keys (Known.tamper Known.backupFile) =
          decryptFile Known.crypto Known.keys
            ((Known.tamper Known.backupFile).take 1 ++ Known.backupFile.drop 1))) ∧
    ((∃ t, openSeedFile Known.crypto Known.decoders (Known.tamper Known.seedFile) Known.pin =
        .error t) ∨
      openSeedFile Known.crypto Known.decoders (Known.tamper Known.seedFile) Known.pin =
        openSeedFile Known.crypto Known.decoders Known.seedFile Known.pin ∨
      (VersionsSwapped 1 2 Known.seedFile (Known.tamper Known.seedFile) ∧
        openSeedFile Known.crypto Known.decoders (Known.tamper Known.seedFile) Known.pin =
          openSeedFile Known.crypto Known.decoders
            ((Known.tamper Known.seedFile).take 1 ++ Known.seedFile.drop 1) Known.pin)) :=
  ⟨(fileIntegrity Known.crypto Known.decoders).1 Known.keys Known.content 3 Known.iv _ _
      Known.write_backup Known.backup_unforged,
    (fileIntegrity Known.crypto Known.decoders).2 Known.blob Known.pin 2 Known.salt Known.iv _ _
      Known.write_seed Known.seed_unforged⟩

/-- Another version leaves what is under the MAC as it is. -/
theorem Known.backup_unforged_version :
    BackupUnforged Known.crypto Known.keys Known.backupFile
      (Known.withVersion 2 Known.backupFile) := by
  intro backup backup' hr hr' _
  have e : EncryptedBackup.read Known.backupFile = .ok
      { version := 3, civ := ⟨Known.backupCipher, Known.iv, Known.backupMac⟩ } := by
    decide +kernel
  have e' : EncryptedBackup.read (Known.withVersion 2 Known.backupFile) = .ok
      { version := 2, civ := ⟨Known.backupCipher, Known.iv, Known.backupMac⟩ } := by
    decide +kernel
  rw [e, Except.ok.injEq] at hr
  rw [e', Except.ok.injEq] at hr'
  subst hr hr'
  exact ⟨rfl, rfl⟩

theorem Known.seed_unforged_version :
    SeedUnforged Known.crypto Known.pin Known.seedFile (Known.withVersion 1 Known.seedFile) := by
  intro seed seed' hr hr' _
  have e : EncryptedSeed.read Known.seedFile = .ok
      { version := 2, salt := Known.salt,
        civ := ⟨Known.seedCipher, Known.iv, Known.seedMac⟩ } := by
    decide +kernel
  have e' : EncryptedSeed.read (Known.withVersion 1 Known.seedFile) = .ok
      { version := 1, salt := Known.salt,
        civ := ⟨Known.seedCipher, Known.iv, Known.seedMac⟩ } := by
    decide +kernel
  rw [e, Except.ok.injEq] at hr
  rw [e', Except.ok.injEq] at hr'
  subst hr hr'
  exact ⟨rfl, rfl⟩

/-- **The version is not under the MAC.**  Under version 2 the backup opens as its compressed
content, and under version 1 the seed file opens with the JSON text as the seed. -/
theorem not_fileIntegrity :
    (Known.withVersion 2 Known.backupFile ≠ Known.backupFile ∧
      BackupUnforged Known.crypto Known.keys Known.backupFile
        (Known.withVersion 2 Known.backupFile) ∧
      decryptFile Known.crypto Known.keys Known.backupFile = .ok Known.content ∧
      decryptFile Known.crypto Known.keys (Known.withVersion 2 Known.backupFile) =
        .ok Known.packed ∧
      Known.packed ≠ Known.content) ∧
    (Known.withVersion 1 Known.seedFile ≠ Known.seedFile ∧
      SeedUnforged Known.crypto Known.pin Known.seedFile (Known.withVersion 1 Known.seedFile) ∧
      openSeedFile Known.crypto Known.decoders Known.seedFile Known.pin = .ok Known.seed ∧
      openSeedFile Known.crypto Known.decoders (Known.withVersion 1 Known.seedFile) Known.pin =
        .ok Known.json ∧
      Known.json ≠ Known.seed) := by
  constructor
  · refine ⟨by decide +kernel, Known.backup_unforged_version, ?_, ?_, by decide⟩
    · decide +kernel
    · decide +kernel
  · refine ⟨by decide +kernel, Known.seed_unforged_version, ?_, ?_, by decide⟩
    · decide +kernel
    · decide +kernel

end EclairMobile
