import EclairMobile.Lib.Fallible
import EclairMobile.Utils.EncryptedData
import Mathlib.Logic.Function.Basic

/-!
# WalletUtils

The seed file: reading and decrypting it, decoding the seed in it, and replacing it through a
temporary file that is read back and decrypted before it is moved over the old one.
-/

namespace EclairMobile

open Lib AesCbcWithIntegrity

/-- The data directory: the files in it by their name, or `none` if it does not exist. -/
abbrev Datadir := Option (String → Option Bytes)

/-- The decoders of the libraries. -/
structure SeedDecoders where
  /-- `Hex.decode`. -/
  hexDecode : Bytes → Except Throwable Bytes
  /-- `String(bytes, UTF_8)`, which replaces what it cannot decode. -/
  utf8 : Bytes → String
  /-- `JSONObject(text).getString(name)`. -/
  getString : String → String → Except Throwable String
  /-- `MnemonicCode.toSeed`. -/
  mnemonicCodeToSeed : List String → String → Except Throwable Bytes

namespace WalletUtils

def SEED_NAME : String := "enc_seed.dat"
def SEED_NAME_TEMP : String := "enc_seed_temp.dat"

/-! ### Decoding -/

section Decoding

variable (d : SeedDecoders)

def byteArray2String (array : Bytes) : Except Throwable String := do
  let bytes ← d.hexDecode array
  .ok (d.utf8 bytes)

def decodeV2MnemonicsBlob (blob : Bytes) : Except Throwable (List String × String) := do
  let json ← byteArray2String d blob
  let words ← d.getString json "words"
  let passphrase ← d.getString json "passphrase"
  .ok (words.splitOn " ", passphrase)

def mnemonicsToSeed (words : List String) (passphrase : String) : Except Throwable Bytes :=
  d.mnemonicCodeToSeed words passphrase

def decodeSeed (encryptedSeed : EncryptedSeed) (blob : Bytes) : Except Throwable Bytes :=
  if encryptedSeed.version = EncryptedSeed.SEED_FILE_VERSION_1 then d.hexDecode blob
  else if encryptedSeed.version = EncryptedSeed.SEED_FILE_VERSION_2 then do
    let (words, passphrase) ← decodeV2MnemonicsBlob d blob
    mnemonicsToSeed d words passphrase
  else .error (.runtimeException
    s!"unable to extract mnemonics, unhandled version={encryptedSeed.version}")

end Decoding

/-! ### Reading -/

/-- `toByteArray` is what a read of the file gives. -/
def readSeedFile (toByteArray : Bytes → Except Throwable Bytes) (datadir : Datadir)
    (seedFileName : String) : Except Throwable EncryptedSeed :=
  match datadir with
  | none => .error (.runtimeException "datadir does not exist")
  | some files =>
    match files seedFileName with
    | none => .error (.runtimeException "seed file does not exist or can not be read")
    | some seedFile => do
      let fileContent ← toByteArray seedFile
      EncryptedSeed.read fileContent

variable (c : Crypto)

def readSeedAndDecrypt (datadir : Datadir) (password : String) :
    Except Throwable (EncryptedSeed × Bytes) := do
  let seed ← readSeedFile .ok datadir SEED_NAME
  let blob ← seed.decrypt c password
  .ok (seed, blob)

/-! ### Writing -/

/-- What goes wrong in the steps of `writeSeedFile`. -/
structure WriteFaults where
  mkdir : Option Throwable := none
  encrypt : Option Throwable := none
  /-- The temporary file keeps this many bytes when the write throws. -/
  write : Option (ℕ × Throwable) := none
  /-- What the file gives when it is read back, if this is not what it holds. -/
  readBack : Option (Except Throwable Bytes) := none
  decrypt : Option Throwable := none
  move : Option Throwable := none

/-- `datadir.mkdir()` on a directory that does not exist. -/
def mkdir : Datadir → Datadir
  | none => some fun _ => none
  | some files => some files

/-- Guava's `Files.write`. -/
def write (fault : Option (ℕ × Throwable)) (bytes : Bytes) (name : String) :
    Fallible Datadir Throwable Unit := do
  match ← get with
  | none => throw (.ioException "No such file or directory")
  | some files =>
    match fault with
    | none => set (some (Function.update files name (some bytes)))
    | some (n, e) =>
      set (some (Function.update files name (some (bytes.take n))))
      throw e

/-- Guava's `Files.move`, which replaces the target or fails and leaves both files as they are. -/
def move (fault : Option Throwable) (source target : String) : Fallible Datadir Throwable Unit :=
  Fallible.step fault fun datadir =>
    datadir.map fun files =>
      Function.update (Function.update files target (files source)) source none

/-- The exceptions are wrapped by their kind. -/
def wrap : Throwable → Throwable
  | .securityException _ => .runtimeException "could not create datadir"
  | .ioException _ => .runtimeException "could not write seed file"
  | .runtimeException _ => .runtimeException "could not create seed: "
  | .generalSecurityException _ => .runtimeException "could not create seed: "
  | .externalStorageUnavailableException => .runtimeException "could not create seed: "
  | .error message => .error message

/-- `if (!datadir.exists()) datadir.mkdir()`. -/
def createDatadir (fault : Option Throwable) : Fallible Datadir Throwable Unit := do
  if (← get).isNone then Fallible.step fault mkdir

/-- The `try` block of `writeSeedFile`. -/
def encryptCheckAndMove (faults : WriteFaults) (data : Bytes) (password : String) (version : ℤ)
    (salt : RandomBytes PBE_SALT_LENGTH_BITS) (iv : RandomBytes IV_LENGTH_BYTES) :
    Fallible Datadir Throwable Unit := do
  createDatadir faults.mkdir
  -- encrypt and write in temp file
  Fallible.orThrow faults.encrypt
  let bytes ← Fallible.ofExcept (EncryptedSeed.encrypt c data password version salt iv).write
  write faults.write bytes SEED_NAME_TEMP
  -- decrypt temp file and check validity; if correct, move temp file to final file
  let datadir ← get
  let temp ← Fallible.ofExcept
    (readSeedFile (fun file => faults.readBack.getD (.ok file)) datadir SEED_NAME_TEMP)
  Fallible.orThrow faults.decrypt
  let checkBlob ← Fallible.ofExcept (temp.decrypt c password)
  if !constantTimeEq checkBlob data then throw (.generalSecurityException "")
  else move faults.move SEED_NAME_TEMP SEED_NAME

def writeSeedFile (faults : WriteFaults) (data : Bytes) (password : String) (version : ℤ)
    (salt : RandomBytes PBE_SALT_LENGTH_BITS) (iv : RandomBytes IV_LENGTH_BYTES) :
    Fallible Datadir Throwable Unit :=
  tryCatch (encryptCheckAndMove c faults data password version salt iv) fun e => throw (wrap e)

/-! ### What a write of the seed file leaves -/

/-- No step after the creation of the directory fails: nothing throws, and what is read back in
place of the file, if anything, decrypts to the data. -/
def WriteFaults.Passes (faults : WriteFaults) (data : Bytes) (password : String) : Prop :=
  faults.encrypt = none ∧ faults.write = none ∧
    (∀ r, faults.readBack = some r →
      ∃ seed, (r >>= EncryptedSeed.read) = .ok seed ∧ seed.decrypt c password = .ok data) ∧
    faults.decrypt = none ∧ faults.move = none

variable {c} {faults : WriteFaults} {data : Bytes} {password : String} {version : ℤ}
  {salt : RandomBytes PBE_SALT_LENGTH_BITS} {iv : RandomBytes IV_LENGTH_BYTES}
  {files : String → Option Bytes}

/-- The directory is there and its seed file is `seedFile`. -/
def HoldsSeed (seedFile : Option Bytes) (datadir : Datadir) : Prop :=
  ∃ files, datadir = some files ∧ files SEED_NAME = seedFile

theorem keeps_createDatadir (fault : Option Throwable) (seedFile : Option Bytes) :
    Fallible.Keeps (HoldsSeed seedFile) (createDatadir fault) := by
  rintro _ ⟨files, rfl, hf⟩
  exact ⟨files, rfl, hf⟩

theorem keeps_write (fault : Option (ℕ × Throwable)) (bytes : Bytes) (seedFile : Option Bytes) :
    Fallible.Keeps (HoldsSeed seedFile) (write fault bytes SEED_NAME_TEMP) := by
  rintro _ ⟨files, rfl, hf⟩
  have hne : SEED_NAME ≠ SEED_NAME_TEMP := by decide
  cases fault with
  | none => exact ⟨_, rfl, (Function.update_of_ne hne _ _).trans hf⟩
  | some fault => exact ⟨_, rfl, (Function.update_of_ne hne _ _).trans hf⟩

/-- **A write that fails leaves the seed file as it was.** -/
theorem keepsOnError_writeSeedFile (seedFile : Option Bytes) :
    Fallible.KeepsOnError (HoldsSeed seedFile)
      (writeSeedFile c faults data password version salt iv) := by
  refine Fallible.keepsOnError_rethrow ?_ wrap
  refine .bind (keeps_createDatadir _ _) fun _ => .bind (Fallible.keeps_orThrow _) fun _ =>
    .bind (Fallible.keeps_ofExcept _) fun bytes => .bind (keeps_write _ bytes _) fun _ =>
    .bind Fallible.keeps_get fun datadir => .bind (Fallible.keeps_ofExcept _) fun temp =>
    .bind (Fallible.keeps_orThrow _) fun _ => .bind (Fallible.keeps_ofExcept _) fun checkBlob => ?_
  split
  · exact Fallible.Keeps.onError fun _ h => h
  · exact Fallible.keepsOnError_step _ _

theorem exec_createDatadir (fault : Option Throwable) (files : String → Option Bytes) :
    (createDatadir fault).exec (some files) = (.ok (), some files) := rfl

theorem readSeedFile_temp (toByteArray : Bytes → Except Throwable Bytes)
    (files : String → Option Bytes) (bytes : Bytes) :
    readSeedFile toByteArray (some (Function.update files SEED_NAME_TEMP (some bytes)))
      SEED_NAME_TEMP = toByteArray bytes >>= EncryptedSeed.read := by
  simp [readSeedFile]

theorem readBack_of_passes (hc : c.Lawful) {bytes : Bytes}
    (hread : EncryptedSeed.read bytes =
      .ok (EncryptedSeed.encrypt c data password version salt iv))
    (hp : faults.Passes c data password) :
    ∃ seed, (faults.readBack.getD (.ok bytes) >>= EncryptedSeed.read) = .ok seed ∧
      seed.decrypt c password = .ok data := by
  obtain ⟨-, -, hback, -, -⟩ := hp
  cases hr : faults.readBack with
  | none =>
    refine ⟨EncryptedSeed.encrypt c data password version salt iv, ?_, ?_⟩
    · exact hread
    · exact AesCbcWithIntegrity.decrypt_encrypt hc (length_confidentialityKey hc password salt) data
        iv
  | some r => exact hback r hr

/-- **A write in which no step fails puts the new file in the place of the old one.** -/
theorem exec_writeSeedFile_of_passes (files : String → Option Bytes) (hc : c.Lawful) {bytes : Bytes}
    (hw : (EncryptedSeed.encrypt c data password version salt iv).write = .ok bytes)
    (hread : EncryptedSeed.read bytes =
      .ok (EncryptedSeed.encrypt c data password version salt iv))
    (hp : faults.Passes c data password) :
    ∃ datadir', (writeSeedFile c faults data password version salt iv).exec (some files) =
      (.ok (), datadir') ∧ HoldsSeed (some bytes) datadir' := by
  obtain ⟨seed, hseed, hblob⟩ := readBack_of_passes hc hread hp
  obtain ⟨hencrypt, hwrite, -, hdecrypt, hmove⟩ := hp
  have hbody : (encryptCheckAndMove c faults data password version salt iv).exec (some files) =
      (move none SEED_NAME_TEMP SEED_NAME).exec
        (some (Function.update files SEED_NAME_TEMP (some bytes))) := by
    unfold encryptCheckAndMove
    rw [Fallible.exec_bind_ok (exec_createDatadir _ files), hencrypt,
      Fallible.exec_bind_ok (Fallible.exec_orThrow_none _), hw,
      Fallible.exec_bind_ok (Fallible.exec_ofExcept _ _), hwrite,
      Fallible.exec_bind_ok (x := write none bytes SEED_NAME_TEMP) rfl,
      Fallible.exec_bind_ok (Fallible.exec_get _), readSeedFile_temp, hseed,
      Fallible.exec_bind_ok (Fallible.exec_ofExcept _ _), hdecrypt,
      Fallible.exec_bind_ok (Fallible.exec_orThrow_none _), hblob,
      Fallible.exec_bind_ok (Fallible.exec_ofExcept _ _), constantTimeEq_iff.mpr rfl, hmove]
    rfl
  refine ⟨_, by rw [writeSeedFile, Fallible.exec_tryCatch, hbody]; rfl, _, rfl, ?_⟩
  have hne : SEED_NAME ≠ SEED_NAME_TEMP := by decide
  beta_reduce
  rw [Function.update_of_ne hne, Function.update_self, Function.update_self]

theorem write_eq_ok {fault : Option (ℕ × Throwable)} {bytes : Bytes} {name : String} {u : Unit}
    {datadir' : Datadir} (h : (write fault bytes name).exec (some files) = (.ok u, datadir')) :
    fault = none ∧ datadir' = some (Function.update files name (some bytes)) := by
  cases fault with
  | none => exact ⟨rfl, (congrArg Prod.snd h).symm⟩
  | some fault => cases congrArg Prod.fst h

/-- A write returns only if no step fails. -/
theorem passes_of_exec_writeSeedFile {datadir' : Datadir}
    (h : (writeSeedFile c faults data password version salt iv).exec (some files) =
      (.ok (), datadir')) : faults.Passes c data password := by
  rw [writeSeedFile, Fallible.exec_tryCatch] at h
  rcases hbody : (encryptCheckAndMove c faults data password version salt iv).exec (some files) with
    ⟨e | u, datadir₁⟩
  · rw [hbody] at h
    cases congrArg Prod.fst h
  · unfold encryptCheckAndMove at hbody
    rw [Fallible.exec_bind_ok (exec_createDatadir _ files)] at hbody
    obtain ⟨_, _, h₁, hbody⟩ := Fallible.exec_bind_eq_ok hbody
    obtain ⟨hencrypt, rfl⟩ := Fallible.orThrow_eq_ok h₁
    obtain ⟨bytes, _, h₂, hbody⟩ := Fallible.exec_bind_eq_ok hbody
    obtain ⟨-, rfl⟩ := Fallible.ofExcept_eq_ok h₂
    obtain ⟨_, _, h₃, hbody⟩ := Fallible.exec_bind_eq_ok hbody
    obtain ⟨hwrite, rfl⟩ := write_eq_ok h₃
    rw [Fallible.exec_bind_ok (Fallible.exec_get _), readSeedFile_temp] at hbody
    obtain ⟨seed, _, h₄, hbody⟩ := Fallible.exec_bind_eq_ok hbody
    obtain ⟨hseed, rfl⟩ := Fallible.ofExcept_eq_ok h₄
    obtain ⟨_, _, h₅, hbody⟩ := Fallible.exec_bind_eq_ok hbody
    obtain ⟨hdecrypt, rfl⟩ := Fallible.orThrow_eq_ok h₅
    obtain ⟨blob, _, h₆, hbody⟩ := Fallible.exec_bind_eq_ok hbody
    obtain ⟨hblob, rfl⟩ := Fallible.ofExcept_eq_ok h₆
    cases heq : constantTimeEq blob data with
    | false =>
      rw [heq] at hbody
      cases congrArg Prod.fst hbody
    | true =>
      rw [heq] at hbody
      obtain ⟨hmove, -⟩ := Fallible.step_eq_ok hbody
      refine ⟨hencrypt, hwrite, fun r hr => ⟨seed, ?_, ?_⟩, hdecrypt, hmove⟩
      · rw [hr] at hseed
        exact hseed
      · rw [hblob, constantTimeEq_iff.mp heq]

end WalletUtils

end EclairMobile
