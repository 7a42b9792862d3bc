import EclairMobile.Lib.Fallible
import EclairMobile.Models.Payment
import EclairMobile.Utils.AesCbcWithIntegrity
import Mathlib.Logic.Function.Basic

/-!
# LocalBackupHelper

The backup file on the device.  From Android 10 on it is a record of the media store, found by its
display name and written through a stream that may or may not truncate it.  Before, it is a file in
the public download directory, which is truncated when it is opened.
-/

namespace EclairMobile

open Lib

/-- `modifiedAt` is in milliseconds. -/
structure LocalBackupFile where
  modifiedAt : Date
  data : Bytes
  path : String
  deriving DecidableEq, Repr

/-- A record of the media store with its content.  Its id is its position.  `dateModified` is in
seconds. -/
structure MediaRecord where
  displayName : String
  dateModified : ℤ
  data : Bytes

structure LegacyFile where
  lastModified : Date
  data : Bytes

/-- The external storage: the records of the media store, in the order of a query, and the files in
the public directory, if it exists. -/
structure Storage where
  mediaStore : List MediaRecord
  publicDir : Option (String → Option LegacyFile)

/-- What one call meets. -/
structure StorageEnv where
  now : Date := 0
  mounted : Bool := true
  canWrite : Bool := true
  mkdirs : Bool := true
  insert : Bool := true
  openStream : Bool := true
  /-- Whether opening the record for writing truncates it. -/
  truncates : Bool := false
  /-- The bytes that arrive before a write throws. -/
  write : Option (ℕ × Throwable) := none

/-! ### The first entry of a list that meets a predicate -/

theorem getElem?_of_findIdx? {α : Type} {p : α → Bool} {l : List α} {i : ℕ}
    (h : l.findIdx? p = some i) : l[i]? = l.find? p := by
  induction l generalizing i with
  | nil => simp at h
  | cons x xs ih =>
    rw [List.findIdx?_cons] at h
    by_cases hx : p x
    · rw [if_pos hx, Option.some.injEq] at h
      simp [← h, hx]
    · rw [if_neg hx, Option.map_eq_some_iff] at h
      obtain ⟨j, hj, rfl⟩ := h
      simp [hx, ih hj]

theorem findIdx?_modify {α : Type} {p : α → Bool} {f : α → α} (hp : ∀ x, p (f x) = p x) (l : List α)
    (i : ℕ) : (l.modify i f).findIdx? p = l.findIdx? p := by
  induction l generalizing i with
  | nil => simp
  | cons x xs ih =>
    cases i with
    | zero => simp [List.findIdx?_cons, hp]
    | succ i => simp [List.findIdx?_cons, ih]

theorem findIdx?_concat {α : Type} {p : α → Bool} {l : List α} {x : α} (h : l.findIdx? p = none)
    (hx : p x) : (l ++ [x]).findIdx? p = some l.length := by
  rw [List.findIdx?_append, h]
  simp [hx]

namespace LocalBackupHelper

/-- `Build.VERSION_CODES.Q`. -/
def VERSION_CODES_Q : ℕ := 29

def ECLAIR_BACKUP_DIR : String := "eclair-mobile-backups"

variable (SDK_INT : ℕ) (env : StorageEnv) (backupFileName : String)

def isExternalStorageWritable : Bool := SDK_INT ≥ VERSION_CODES_Q || env.mounted

/-- The time of the last change and the id of the first record with the name. -/
def getBackupUriMediaStore (storage : Storage) (backupFileName : String) : Option (ℤ × ℕ) := do
  let uri ← storage.mediaStore.findIdx? fun record => record.displayName = backupFileName
  let record ← storage.mediaStore[uri]?
  some (record.dateModified, uri)

/-- The checks before the legacy file is used.  Its directory is created if need be. -/
def getBackupFileLegacy : Fallible Storage Throwable Unit := do
  if !isExternalStorageWritable SDK_INT env then throw .externalStorageUnavailableException
  if !env.canWrite then throw .externalStorageUnavailableException
  let storage ← get
  if storage.publicDir.isNone then
    if env.mkdirs then set { storage with publicDir := some fun _ => none }
    else throw .externalStorageUnavailableException

/-- `null` if no stream is given. -/
def getBackupFileFromUri (storage : Storage) (uri : ℕ) (modifiedAt : ℤ) : Option LocalBackupFile :=
  if env.openStream then
    storage.mediaStore[uri]?.map fun record =>
      { modifiedAt := modifiedAt * 1000, data := record.data
        path := s!"Documents/{ECLAIR_BACKUP_DIR}/{backupFileName}" }
  else none

def getBackupFile : Fallible Storage Throwable (Option LocalBackupFile) := do
  if SDK_INT ≥ VERSION_CODES_Q then
    let storage ← get
    match getBackupUriMediaStore storage backupFileName with
    | some (modifiedAt, uri) =>
      pure (getBackupFileFromUri env backupFileName storage uri modifiedAt)
    | none => pure none
  else
    getBackupFileLegacy SDK_INT env
    let storage ← get
    match storage.publicDir.bind fun files => files backupFileName with
    | some file =>
      pure (some { modifiedAt := file.lastModified, data := file.data
                   path := s!"Download/{ECLAIR_BACKUP_DIR}/{backupFileName}" })
    | none => pure none

/-- Creates an empty record and gives its id. -/
def insert : Fallible Storage Throwable ℕ := do
  let storage ← get
  if env.insert then
    let record : MediaRecord :=
      { displayName := backupFileName, dateModified := env.now / 1000, data := [] }
    set { storage with mediaStore := storage.mediaStore ++ [record] }
    pure storage.mediaStore.length
  else
    throw (.runtimeException s!"failed to create media store record for backup={backupFileName}")

/-- The id of the record to write, which is inserted if there is none. -/
def uriForSave : Fallible Storage Throwable ℕ := do
  let storage ← get
  match getBackupUriMediaStore storage backupFileName with
  | some (_, uri) => pure uri
  | none => insert env backupFileName

/-- The content of a record that held `old`, after a stream on it took `bytes`. -/
def streamed (old bytes : Bytes) : Bytes := if env.truncates then bytes else overwrite old bytes

def putRecord (uri : ℕ) (bytes : Bytes) (storage : Storage) : Storage :=
  let put (record : MediaRecord) : MediaRecord :=
    { record with dateModified := env.now / 1000, data := streamed env record.data bytes }
  { storage with mediaStore := storage.mediaStore.modify uri put }

def putLegacy (bytes : Bytes) (storage : Storage) : Storage :=
  let file : LegacyFile := ⟨env.now, bytes⟩
  { storage with
    publicDir := storage.publicDir.map fun files =>
      Function.update files backupFileName (some file) }

/-- `outputStream.write(bytes)`, where `put` is the effect of the bytes that arrive. -/
def writeStream (put : Bytes → Storage → Storage) (bytes : Bytes) :
    Fallible Storage Throwable Unit :=
  match env.write with
  | none => modify (put bytes)
  | some (n, e) => do
    modify (put (bytes.take n))
    throw e

def saveBackupFile (bytes : Bytes) : Fallible Storage Throwable Unit := do
  if SDK_INT ≥ VERSION_CODES_Q then
    let uri ← uriForSave env backupFileName
    if env.openStream then writeStream env (putRecord env uri) bytes
    else throw (.runtimeException s!"failed to open output stream from uri={uri}")
  else
    getBackupFileLegacy SDK_INT env
    writeStream env (putLegacy env backupFileName) bytes

/-! ### What the file holds -/

/-- The content under a name, where the device keeps it. -/
def stored (storage : Storage) : Option Bytes :=
  if SDK_INT ≥ VERSION_CODES_Q then
    (storage.mediaStore.find? fun record => record.displayName = backupFileName).map
      MediaRecord.data
  else (storage.publicDir.bind fun files => files backupFileName).map LegacyFile.data

variable {SDK_INT env backupFileName} {storage storage' : Storage} {bytes : Bytes}

theorem exec_writeStream_ok {put : Bytes → Storage → Storage}
    (h : (writeStream env put bytes).exec storage = (.ok (), storage')) :
    storage' = put bytes storage := by
  unfold writeStream at h
  cases hw : env.write with
  | none =>
    rw [hw] at h
    exact (congrArg Prod.snd h).symm
  | some fault =>
    rw [hw] at h
    cases congrArg Prod.fst h

theorem stored_putRecord (hsdk : SDK_INT ≥ VERSION_CODES_Q) {uri : ℕ} {record : MediaRecord}
    (hi : (storage.mediaStore.findIdx? fun r => r.displayName = backupFileName) = some uri)
    (hr : storage.mediaStore[uri]? = some record) :
    stored SDK_INT backupFileName (putRecord env uri bytes storage) =
      some (streamed env record.data bytes) := by
  let put (r : MediaRecord) : MediaRecord :=
    { r with dateModified := env.now / 1000, data := streamed env r.data bytes }
  have hfound : ((storage.mediaStore.modify uri put).findIdx? fun r =>
      r.displayName = backupFileName) = some uri :=
    (findIdx?_modify (f := put) (fun _ => rfl) _ _).trans hi
  show (if _ then ((storage.mediaStore.modify uri put).find? _).map MediaRecord.data else _) = _
  rw [if_pos hsdk, ← getElem?_of_findIdx? hfound, List.getElem?_modify_eq, hr]
  rfl

/-- Looking a name up: no record has it, or the first one that has it is found. -/
theorem getBackupUriMediaStore_cases (storage : Storage) (backupFileName : String) :
    (getBackupUriMediaStore storage backupFileName = none ∧
      (storage.mediaStore.findIdx? fun r => r.displayName = backupFileName) = none ∧
      (storage.mediaStore.find? fun r => r.displayName = backupFileName) = none) ∨
    ∃ uri record, getBackupUriMediaStore storage backupFileName =
        some (record.dateModified, uri) ∧
      (storage.mediaStore.findIdx? fun r => r.displayName = backupFileName) = some uri ∧
      storage.mediaStore[uri]? = some record ∧
      (storage.mediaStore.find? fun r => r.displayName = backupFileName) = some record := by
  cases hi : storage.mediaStore.findIdx? fun r => r.displayName = backupFileName with
  | none =>
    exact .inl ⟨by simp [getBackupUriMediaStore, hi], rfl,
      List.find?_eq_none.mpr (by simpa using hi)⟩
  | some uri =>
    obtain ⟨hlt, -⟩ := List.findIdx?_eq_some_iff_getElem.mp hi
    have hr : storage.mediaStore[uri]? = some storage.mediaStore[uri] :=
      List.getElem?_eq_getElem hlt
    refine .inr ⟨uri, storage.mediaStore[uri], ?_, rfl, hr, ?_⟩
    · simp [getBackupUriMediaStore, hi, hr]
    · rw [← getElem?_of_findIdx? hi, hr]

/-- The record to write is the first one with the name, and holds what the file held. -/
theorem exec_uriForSave_ok (hsdk : SDK_INT ≥ VERSION_CODES_Q) {uri : ℕ}
    (h : (uriForSave env backupFileName).exec storage = (.ok uri, storage')) :
    (storage'.mediaStore.findIdx? fun r => r.displayName = backupFileName) = some uri ∧
      ∃ record, storage'.mediaStore[uri]? = some record ∧
        record.data = (stored SDK_INT backupFileName storage).getD [] := by
  obtain ⟨_, _, hget, h⟩ := Fallible.exec_bind_eq_ok h
  cases hget
  rw [stored, if_pos hsdk]
  obtain ⟨hfound, hi, hfind⟩ | ⟨i, record, hfound, hi, hr, hfind⟩ :=
    getBackupUriMediaStore_cases storage backupFileName
  · rw [hfound] at h
    obtain ⟨_, _, hget, h⟩ := Fallible.exec_bind_eq_ok h
    cases hget
    split_ifs at h with hins
    · cases h
      exact ⟨findIdx?_concat hi (by simp), _, List.getElem?_concat_length, by rw [hfind]; rfl⟩
    · cases congrArg Prod.fst h
  · rw [hfound] at h
    cases h
    exact ⟨hi, record, hr, by rw [hfind]; rfl⟩

theorem exec_getBackupFileLegacy_ok
    (h : (getBackupFileLegacy SDK_INT env).exec storage = (.ok (), storage')) :
    storage'.publicDir = some (storage.publicDir.getD fun _ => none) := by
  unfold getBackupFileLegacy at h
  cases hw : isExternalStorageWritable SDK_INT env with
  | false =>
    rw [hw] at h
    cases congrArg Prod.fst h
  | true =>
    cases hc : env.canWrite with
    | false =>
      rw [hw, hc] at h
      cases congrArg Prod.fst h
    | true =>
      rw [hw, hc] at h
      obtain ⟨_, _, hget, h⟩ := Fallible.exec_bind_eq_ok h
      cases hget
      cases hd : storage.publicDir with
      | some files =>
        rw [hd] at h
        cases h
        rw [hd]
        rfl
      | none =>
        rw [hd] at h
        cases hm : env.mkdirs with
        | false =>
          rw [hm] at h
          cases congrArg Prod.fst h
        | true =>
          rw [hm] at h
          cases h
          rfl

theorem exec_getBackupFileLegacy_there (SDK_INT : ℕ) (storage : Storage) :
    (getBackupFileLegacy SDK_INT {}).exec storage =
      (.ok (), { storage with publicDir := some (storage.publicDir.getD fun _ => none) }) := by
  have hw : isExternalStorageWritable SDK_INT {} = true := by simp [isExternalStorageWritable]
  unfold getBackupFileLegacy
  rw [hw]
  cases hd : storage.publicDir with
  | none =>
    show Fallible.exec (if storage.publicDir.isNone then _ else _) storage = _
    rw [hd]
    rfl
  | some files =>
    show Fallible.exec (if storage.publicDir.isNone then _ else _) storage = _
    rw [hd]
    show (Except.ok (), storage) = (Except.ok (), { storage with publicDir := some files })
    rw [← hd]

/-- **What a save that returns leaves.** -/
theorem stored_saveBackupFile
    (h : (saveBackupFile SDK_INT env backupFileName bytes).exec storage = (.ok (), storage')) :
    stored SDK_INT backupFileName storage' =
      some (if SDK_INT ≥ VERSION_CODES_Q then
        streamed env ((stored SDK_INT backupFileName storage).getD []) bytes else bytes) := by
  unfold saveBackupFile at h
  by_cases hsdk : SDK_INT ≥ VERSION_CODES_Q
  · rw [if_pos hsdk] at h ⊢
    obtain ⟨uri, storage₁, huri, h⟩ := Fallible.exec_bind_eq_ok h
    obtain ⟨hi, record, hr, hold⟩ := exec_uriForSave_ok hsdk huri
    split_ifs at h
    · rw [exec_writeStream_ok h, stored_putRecord hsdk hi hr, hold]
    · cases congrArg Prod.fst h
  · rw [if_neg hsdk] at h ⊢
    obtain ⟨_, storage₁, hlegacy, h⟩ := Fallible.exec_bind_eq_ok h
    rw [exec_writeStream_ok h, stored, if_neg hsdk]
    simp [putLegacy, exec_getBackupFileLegacy_ok hlegacy]

/-- Reading when the storage is there gives what is stored. -/
theorem getBackupFile_stored (SDK_INT : ℕ) (backupFileName : String) (storage : Storage) :
    ∃ file, ((getBackupFile SDK_INT {} backupFileName).exec storage).1 = .ok file ∧
      file.map LocalBackupFile.data = stored SDK_INT backupFileName storage := by
  unfold getBackupFile stored
  by_cases hsdk : SDK_INT ≥ VERSION_CODES_Q
  · rw [if_pos hsdk, if_pos hsdk]
    show ∃ file, (Fallible.exec (match getBackupUriMediaStore storage backupFileName with
      | some (modifiedAt, uri) => _
      | none => _) storage).1 = _ ∧ _
    obtain ⟨hfound, -, hfind⟩ | ⟨uri, record, hfound, -, hr, hfind⟩ :=
      getBackupUriMediaStore_cases storage backupFileName
    · rw [hfound, hfind]
      exact ⟨none, rfl, rfl⟩
    · rw [hfound, hfind]
      exact ⟨_, rfl, by simp [getBackupFileFromUri, hr]⟩
  · rw [if_neg hsdk, if_neg hsdk,
      Fallible.exec_bind_ok (exec_getBackupFileLegacy_there SDK_INT storage)]
    show ∃ file, (Fallible.exec (match (storage.publicDir.getD fun _ => none) backupFileName with
      | some file => _
      | none => _) _).1 = _ ∧ _
    cases hd : storage.publicDir with
    | none => exact ⟨none, rfl, rfl⟩
    | some files =>
      cases hf : files backupFileName with
      | none => exact ⟨none, by rw [Option.getD_some, hf]; rfl, by rw [Option.bind_some, hf]; rfl⟩
      | some file => exact ⟨_, by rw [Option.getD_some, hf]; rfl, by rw [Option.bind_some, hf]; rfl⟩

end LocalBackupHelper

end EclairMobile
