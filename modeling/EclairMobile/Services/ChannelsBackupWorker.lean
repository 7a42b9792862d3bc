import EclairMobile.Utils.FileFormats
import EclairMobile.Utils.LocalBackupHelper

/-!
# ChannelsBackupWorker

Saves of the channels backup on the device, and what the next scan reads.  A save goes through the
whole file only if the stream truncates it; otherwise the end of a longer backup stays behind the
new one, and the MAC of the new one no longer fits.
-/

namespace EclairMobile

open Lib AesCbcWithIntegrity EncryptedData LocalBackupHelper
open RestoreChannelsBackupActivity (decryptFile keyFor)

namespace ChannelsBackupWorker

section

variable (c : Crypto) (SDK_INT : ℕ) (backupFileName : String)

/-- The content of the database file under a key of the second generation. -/
def getEncryptedBackup (app : BackupKeys) (eclairDBFile : Bytes)
    (iv : RandomBytes IV_LENGTH_BYTES) : Except Throwable Bytes :=
  (EncryptedBackup.encrypt c eclairDBFile (app.secretKeys .v2) EncryptedBackup.BACKUP_VERSION_3
    iv).write

/-- Whether the file was saved, with the storage afterwards. -/
def saveToLocal (env : StorageEnv) (encryptedBackup : Bytes) (storage : Storage) : Bool × Storage :=
  match (saveBackupFile SDK_INT env backupFileName encryptedBackup).exec storage with
  | (.ok (), storage') => (true, storage')
  | (.error _, storage') => (false, storage')

/-- One run of the worker: the database file it finds, the vector it draws and what it meets. -/
structure Save where
  eclairDBFile : Bytes
  iv : RandomBytes IV_LENGTH_BYTES
  env : StorageEnv

/-- The local part of `doWork`. -/
def doWork (app : BackupKeys) (s : Save) (storage : Storage) : Bool × Storage :=
  match getEncryptedBackup c app s.eclairDBFile s.iv with
  | .ok encryptedBackup => saveToLocal SDK_INT backupFileName s.env encryptedBackup storage
  | .error _ => (false, storage)

/-- The storage after some runs, whatever came of them. -/
def afterSaves (app : BackupKeys) (saves : List Save) (storage : Storage) : Storage :=
  saves.foldl (fun st s => (doWork c SDK_INT backupFileName app s st).2) storage

/-- The local scan: the content of the backup file, or nothing if there is no file. -/
def readLocalBackup (app : BackupKeys) (storage : Storage) : Except Throwable (Option Bytes) := do
  match ← ((getBackupFile SDK_INT {} backupFileName).exec storage).1 with
  | none => .ok none
  | some file =>
    let content ← decryptFile c app file.data
    .ok (some content)

end

variable {c : Crypto} {SDK_INT : ℕ} {backupFileName : String} {app : BackupKeys}
  {storage : Storage}

theorem afterSaves_concat (saves : List Save) (s : Save) (storage : Storage) :
    afterSaves c SDK_INT backupFileName app (saves ++ [s]) storage =
      (doWork c SDK_INT backupFileName app s
        (afterSaves c SDK_INT backupFileName app saves storage)).2 := by
  simp [afterSaves]

theorem readLocalBackup_of_stored {content : Bytes}
    (h : stored SDK_INT backupFileName storage = some content) :
    readLocalBackup c SDK_INT backupFileName app storage =
      (decryptFile c app content).map some := by
  obtain ⟨file, hread, hdata⟩ := getBackupFile_stored SDK_INT backupFileName storage
  rw [h, Option.map_eq_some_iff] at hdata
  obtain ⟨file', rfl, rfl⟩ := hdata
  unfold readLocalBackup
  rw [hread]
  show (decryptFile c app file'.data >>= fun content => _) = _
  cases decryptFile c app file'.data <;> rfl

theorem map_some_eq_ok_iff {r : Except Throwable Bytes} {data : Bytes} :
    r.map some = .ok (some data) ↔ r = .ok data := by
  cases r <;> simp [Except.map]

/-- A run that succeeds writes the encrypted file, over the old one or in its place. -/
theorem stored_doWork {s : Save} {bytes : Bytes}
    (hbytes : getEncryptedBackup c app s.eclairDBFile s.iv = .ok bytes)
    (hsaved : (doWork c SDK_INT backupFileName app s storage).1 = true) :
    stored SDK_INT backupFileName (doWork c SDK_INT backupFileName app s storage).2 =
      some (if SDK_INT ≥ VERSION_CODES_Q then
        streamed s.env ((stored SDK_INT backupFileName storage).getD []) bytes else bytes) := by
  simp only [doWork, hbytes, saveToLocal] at hsaved ⊢
  rcases hexec : (saveBackupFile SDK_INT s.env backupFileName bytes).exec storage with
    ⟨e | u, storage'⟩
  · rw [hexec] at hsaved
    cases hsaved
  · exact stored_saveBackupFile hexec

/-- **A backup with something behind it is refused.** -/
theorem decryptFile_append {data bytes tail : Bytes} {iv : RandomBytes IV_LENGTH_BYTES}
    (hbytes : getEncryptedBackup c app data iv = .ok bytes)
    (hu : BackupUnforged c app bytes (bytes ++ tail)) {data' : Bytes}
    (h : decryptFile c app (bytes ++ tail) = .ok data') : tail = [] := by
  obtain ⟨hv, hiv, hmac, hcontent⟩ := EncryptedBackup.write_ok_iff.mp hbytes
  obtain ⟨version', hr, -⟩ := decryptFile_changed hbytes (authentic_encrypt _ _ iv) hu h
  rw [hcontent, List.append_assoc, EncryptedBackup.read_writeByte hv,
    readCiv_writeCiv_append hiv hmac, Except.ok.injEq] at hr
  have hcipher := congrArg (fun b => b.civ.cipherText) hr
  simpa using hcipher

/-- What a stream leaves decrypts to the new content exactly if the old file does not show. -/
theorem decryptFile_streamed_iff (hc : c.Lawful) {env : StorageEnv} {data old bytes : Bytes}
    {iv : RandomBytes IV_LENGTH_BYTES} (hbytes : getEncryptedBackup c app data iv = .ok bytes)
    (hu : BackupUnforged c app bytes (streamed env old bytes)) :
    decryptFile c app (streamed env old bytes) = .ok data ↔
      (env.truncates = true ∨ old.length ≤ bytes.length) := by
  have hsame : decryptFile c app bytes = .ok data := decryptFile_of_write hc hbytes
  cases ht : env.truncates with
  | true => simp [streamed, ht, hsame]
  | false =>
    have hover : streamed env old bytes = overwrite old bytes := by simp [streamed, ht]
    rw [hover] at hu ⊢
    constructor
    · intro h
      have htail : old.drop bytes.length = [] := decryptFile_append hbytes hu h
      exact .inr (List.drop_eq_nil_iff.mp htail)
    · rintro (hf | hle)
      · cases hf
      · rw [overwrite_eq_iff.mpr hle]
        exact hsame

/-- **When the last saved backup is read back**: exactly if the device truncates the file, or the
file it writes over is not longer. -/
theorem readLocalBackup_iff (hc : c.Lawful) (app : BackupKeys) (SDK_INT : ℕ)
    (backupFileName : String) (storage : Storage) (saves : List Save) (last : Save) (bytes : Bytes)
    (hbytes : getEncryptedBackup c app last.eclairDBFile last.iv = .ok bytes)
    (hsaved : (doWork c SDK_INT backupFileName app last
      (afterSaves c SDK_INT backupFileName app saves storage)).1 = true)
    (hideal : ∀ found, stored SDK_INT backupFileName
      (afterSaves c SDK_INT backupFileName app (saves ++ [last]) storage) = some found →
        BackupUnforged c app bytes found) :
    readLocalBackup c SDK_INT backupFileName app
        (afterSaves c SDK_INT backupFileName app (saves ++ [last]) storage) =
          .ok (some last.eclairDBFile) ↔
      (SDK_INT < VERSION_CODES_Q ∨ last.env.truncates = true ∨
        ∀ old, stored SDK_INT backupFileName
          (afterSaves c SDK_INT backupFileName app saves storage) = some old →
            old.length ≤ bytes.length) := by
  have hstored := stored_doWork hbytes hsaved
  rw [← afterSaves_concat] at hstored
  rw [readLocalBackup_of_stored hstored]
  have hu := hideal _ hstored
  generalize afterSaves c SDK_INT backupFileName app saves storage = before at hu ⊢
  by_cases hsdk : SDK_INT ≥ VERSION_CODES_Q
  · rw [if_pos hsdk] at hu ⊢
    have hlength : ((stored SDK_INT backupFileName before).getD []).length ≤ bytes.length ↔
        ∀ old, stored SDK_INT backupFileName before = some old → old.length ≤ bytes.length := by
      cases stored SDK_INT backupFileName before <;> simp
    rw [map_some_eq_ok_iff, decryptFile_streamed_iff hc hbytes hu, hlength]
    have hnot : ¬SDK_INT < VERSION_CODES_Q := by omega
    simp [hnot]
  · have hlt : SDK_INT < VERSION_CODES_Q := by omega
    rw [if_neg hsdk, map_some_eq_ok_iff]
    exact iff_of_true (decryptFile_of_write hc hbytes) (.inl hlt)

/-! ### A long backup and a short one -/

namespace TwoSaves

open Known

def iv2 : RandomBytes IV_LENGTH_BYTES := ⟨(List.range' 16 16).map UInt8.ofNat, by decide⟩

def longContent : Bytes := (List.range' 64 40).map UInt8.ofNat

/-- `longContent`, deflated. -/
def longPacked : Bytes :=
  [120, 156, 115, 112, 116, 114, 118, 113, 117, 115, 247, 240, 244, 242, 246, 241, 245, 243, 15,
   8, 12, 10, 14, 9, 13, 11, 143, 136, 140, 138, 142, 137, 141, 139, 79, 72, 76, 74, 78, 73, 77,
   75, 7, 0, 246, 204, 13, 13]

/-- `longPacked`, encrypted. -/
def longCipher : Bytes :=
  [44, 194, 209, 253, 54, 217, 195, 148, 208, 208, 148, 27, 75, 64, 9, 217, 230, 145, 239, 214,
   12, 23, 200, 148, 237, 55, 114, 75, 69, 242, 74, 160, 231, 152, 33, 136, 247, 37, 72, 54,
   148, 142, 135, 65, 26, 149, 26, 197, 215, 231, 249, 10, 0, 33, 76, 15, 83, 205, 125, 91, 231,
   127, 160, 143]

/-- Its HMAC. -/
def longMac : RandomBytes 32 :=
  ⟨[127, 252, 198, 7, 41, 172, 211, 54, 198, 48, 95, 195, 234, 205, 18, 207, 136, 146, 58, 39, 1,
   195, 67, 204, 23, 85, 25, 138, 43, 54, 189, 23], by decide⟩

/-- The HMAC of the short cipher text with the end of the long one behind it. -/
def mixedMac : RandomBytes 32 :=
  ⟨[232, 253, 169, 1, 75, 159, 222, 151, 66, 184, 252, 12, 59, 46, 109, 189, 225, 239, 183, 189,
   149, 18, 102, 205, 236, 217, 4, 25, 200, 6, 140, 22], by decide⟩

def saveAnswers : KnownAnswers where
  aes := ((key2.bytes.take 16, iv2), longPacked, longCipher) :: answers.aes
  hmac :=
    ((key2.bytes.drop 16, iv2 ++ longCipher), longMac) ::
      ((key2.bytes.drop 16, iv ++ backupCipher ++ longCipher.drop 16), mixedMac) :: answers.hmac
  pbkdf2 := answers.pbkdf2
  zlib := (longContent, longPacked) :: answers.zlib

def saveCrypto : Crypto := Crypto.ofKnown saveAnswers

theorem saveCrypto_lawful : saveCrypto.Lawful := Crypto.ofKnown_lawful saveAnswers

/-- Two saves that are not truncated, in an empty media store. -/
def longSave : Save := ⟨longContent, iv2, {}⟩
def shortSave : Save := ⟨content, iv, {}⟩

/-- The long file under the short one. -/
def mixedFile : Bytes := backupFile ++ longCipher.drop 16

theorem getEncryptedBackup_short :
    getEncryptedBackup saveCrypto keys content iv = .ok backupFile := by decide +kernel

theorem saved_short : (doWork saveCrypto 29 "eclair.bkup" keys shortSave
    (afterSaves saveCrypto 29 "eclair.bkup" keys [longSave] ⟨[], none⟩)).1 = true := by
  decide +kernel

theorem stored_mixed : stored 29 "eclair.bkup" (afterSaves saveCrypto 29 "eclair.bkup" keys
    ([longSave] ++ [shortSave]) ⟨[], none⟩) = some mixedFile := by decide +kernel

theorem unforged_mixed : BackupUnforged saveCrypto keys backupFile mixedFile := by
  intro backup backup' hr hr' ha
  have e : EncryptedBackup.read mixedFile = .ok
      { version := 3, civ := ⟨backupCipher ++ longCipher.drop 16, iv, backupMac⟩ } := by
    decide +kernel
  rw [e, Except.ok.injEq] at hr'
  subst hr'
  exact absurd ha (by decide +kernel)

end TwoSaves

/-- A long backup, then a short one. -/
theorem readLocalBackup_iff_short :
    readLocalBackup TwoSaves.saveCrypto 29 "eclair.bkup" Known.keys
        (afterSaves TwoSaves.saveCrypto 29 "eclair.bkup" Known.keys
          ([TwoSaves.longSave] ++ [TwoSaves.shortSave]) ⟨[], none⟩) =
        .ok (some TwoSaves.shortSave.eclairDBFile) ↔
      (29 < VERSION_CODES_Q ∨ TwoSaves.shortSave.env.truncates = true ∨
        ∀ old, stored 29 "eclair.bkup" (afterSaves TwoSaves.saveCrypto 29 "eclair.bkup"
          Known.keys [TwoSaves.longSave] ⟨[], none⟩) = some old →
            old.length ≤ Known.backupFile.length) :=
  readLocalBackup_iff TwoSaves.saveCrypto_lawful Known.keys 29
    "eclair.bkup" ⟨[], none⟩ [TwoSaves.longSave] TwoSaves.shortSave Known.backupFile
    TwoSaves.getEncryptedBackup_short TwoSaves.saved_short (by
      intro found hfound
      rw [TwoSaves.stored_mixed, Option.some.injEq] at hfound
      subst hfound
      exact TwoSaves.unforged_mixed)

/-- **The end of the long backup spoils the short one**: both runs succeed, and the scan fails. -/
theorem not_readLocalBackup :
    (doWork TwoSaves.saveCrypto 29 "eclair.bkup" Known.keys TwoSaves.longSave
      ⟨[], none⟩).1 = true ∧
    (doWork TwoSaves.saveCrypto 29 "eclair.bkup" Known.keys TwoSaves.shortSave
      (afterSaves TwoSaves.saveCrypto 29 "eclair.bkup" Known.keys [TwoSaves.longSave]
        ⟨[], none⟩)).1 = true ∧
    readLocalBackup TwoSaves.saveCrypto 29 "eclair.bkup" Known.keys
        (afterSaves TwoSaves.saveCrypto 29 "eclair.bkup" Known.keys
          ([TwoSaves.longSave] ++ [TwoSaves.shortSave]) ⟨[], none⟩) =
      .error (.generalSecurityException "MAC stored in civ does not match computed MAC.") := by
  decide +kernel

end ChannelsBackupWorker

end EclairMobile
