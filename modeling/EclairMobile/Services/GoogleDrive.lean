import EclairMobile.Lib.LatestWrite
import EclairMobile.Lib.Reach
import EclairMobile.Services.ChannelsBackupWorker

/-!
# Backups on Google Drive

`BackupHelper.GoogleDrive` and the workers that save to it.  A save is a sequence of calls: the
folder is looked up or created, the backups in it are listed, and the best one is updated or a new
one is created.  Workers of several devices and wallets do so at the same time, and any call may
fail, or succeed without an answer.
-/

namespace EclairMobile

open Lib

namespace GoogleDrive

/-- A file as the service keeps it. -/
structure File where
  id : ℕ
  name : String
  parent : ℕ
  /-- Null, or with the value under `BACKUP_META_DEVICE_ID`, which may be null. -/
  appProperties : Option (Option String)
  modifiedTime : Date
  content : Bytes
  deriving DecidableEq, Repr

structure Folder where
  id : ℕ
  name : String
  deriving DecidableEq, Repr

/-- What the app sees of a Drive: the folders and files that it created.  The hidden folder of the
app data is the parent of the backups of old versions. -/
structure Drive where
  folders : List Folder := []
  files : List File := []
  nextId : ℕ := 0
  now : Date

def BACKUP_FOLDER_NAME (testnet : Bool) : String :=
  "eclair-mobile" ++ if testnet then "-testnet" else ""

/-- The answers of the service to a query that orders by `modifiedTime desc`. -/
def Answers (query : File → Bool) (files answer : List File) : Prop :=
  answer.Perm (files.filter query) ∧ answer.Pairwise fun a b => b.modifiedTime ≤ a.modifiedTime

instance (query : File → Bool) (files answer : List File) :
    Decidable (Answers query files answer) :=
  inferInstanceAs (Decidable (_ ∧ _))

/-- The query of `listBackupsLegacy`. -/
def listBackupsLegacy (fileName : String) (file : File) : Bool := file.name = fileName

/-- The query of `listBackups`, behind `getOrCreateBackupFolder`. -/
def listBackups (fileName : String) (folder : ℕ) (file : File) : Bool :=
  file.name = fileName && file.parent = folder

def filterBestBackup (files : List File) : Option File := files.head?

/-- `setIsFromDevice` of the scan. -/
def isFromDevice (currentDeviceId : String) (file : File) : Bool :=
  let remoteDeviceId := file.appProperties.getD (some currentDeviceId)
  remoteDeviceId.isNone || remoteDeviceId = some currentDeviceId

/-! ### The calls of a worker -/

/-- The call that comes next.  The folder is looked up for the listing and again for a new file. -/
inductive Call
  | listFolders (creates : Bool)
  | createFolder (creates : Bool)
  | listFiles (folder : ℕ)
  | createFile (folder : ℕ)
  | updateFile (id : ℕ)
  deriving DecidableEq, Repr

/-- `saveToGoogleDrive`.  The database file is known for the history only. -/
structure Worker where
  backupFileName : String
  deviceId : String
  eclairDBFile : Bytes
  encryptedBackup : Bytes
  call : Call := .listFolders false
  deriving DecidableEq, Repr

/-- A backup that reached the Drive. -/
structure Write where
  backupFileName : String
  deviceId : String
  eclairDBFile : Bytes
  encryptedBackup : Bytes
  time : Date
  deriving DecidableEq, Repr

def Worker.write (w : Worker) (time : Date) : Write where
  backupFileName := w.backupFileName
  deviceId := w.deviceId
  eclairDBFile := w.eclairDBFile
  encryptedBackup := w.encryptedBackup
  time := time

structure Backups where
  drive : Drive
  workers : List Worker := []
  /-- History: the latest write first. -/
  writes : List Write := []

namespace Backups

/-- The worker goes on with another call. -/
def goOn (i : ℕ) (call : Call) (s : Backups) : Backups :=
  { s with workers := s.workers.modify i fun w => { w with call := call } }

/-- The worker is done, with or without success. -/
def endWork (i : ℕ) (s : Backups) : Backups := { s with workers := s.workers.eraseIdx i }

/-- With the folder at hand the files are listed, or a new one is created. -/
def withFolder (creates : Bool) (folder : ℕ) : Call :=
  if creates then .createFile folder else .listFiles folder

def createFile (w : Worker) (folder : ℕ) (time : Date) (s : Backups) : Backups :=
  let file : File :=
    { id := s.drive.nextId
      name := w.backupFileName
      parent := folder
      appProperties := some (some w.deviceId)
      modifiedTime := time
      content := w.encryptedBackup }
  { s with
    drive := { s.drive with
      files := s.drive.files ++ [file]
      nextId := s.drive.nextId + 1
      now := time }
    writes := w.write time :: s.writes }

/-- The file with the new properties and the new content. -/
def updated (w : Worker) (time : Date) (file : File) : File :=
  { file with
    appProperties := some (some w.deviceId)
    modifiedTime := time
    content := w.encryptedBackup }

/-- The service refuses an update of a file that is not there. -/
def updateFile (w : Worker) (id : ℕ) (time : Date) (s : Backups) : Backups :=
  if s.drive.files.any fun file => file.id = id then
    { s with
      drive := { s.drive with
        files := s.drive.files.map fun file => if file.id = id then updated w time file else file
        now := time }
      writes := w.write time :: s.writes }
  else s

inductive Event
  /-- A worker is started, on a device where the Drive is available. -/
  | save (backupFileName deviceId : String) (eclairDBFile : Bytes)
      (iv : RandomBytes AesCbcWithIntegrity.IV_LENGTH_BYTES)
  | listFolders (i : ℕ) (creates : Bool) (answer : List Folder)
  | createFolder (i : ℕ) (creates : Bool) (time : Date)
  | listFiles (i folder : ℕ) (answer : List File)
  | createFile (i folder : ℕ) (time : Date)
  | updateFile (i id : ℕ) (time : Date)
  /-- A call fails, or its answer is lost. -/
  | fail (i : ℕ)

/-- The worker makes this call. -/
def Calls (s : Backups) (i : ℕ) (call : Call) : Prop := s.workers[i]?.map Worker.call = some call

instance (s : Backups) (i : ℕ) (call : Call) : Decidable (s.Calls i call) :=
  inferInstanceAs (Decidable (_ = _))

section

variable (c : Crypto) (keys : String → BackupKeys) (testnet : Bool)

/-- Which events are possible.  The clock of the service does not go back. -/
def Enabled (s : Backups) : Event → Prop
  | .save _ _ _ _ | .fail _ => True
  | .listFolders i creates answer => s.Calls i (.listFolders creates) ∧
      answer.Perm (s.drive.folders.filter fun folder => folder.name = BACKUP_FOLDER_NAME testnet)
  | .createFolder i creates time => s.Calls i (.createFolder creates) ∧ s.drive.now ≤ time
  | .listFiles i folder answer => s.Calls i (.listFiles folder) ∧
      (s.workers[i]?.all fun w =>
        Answers (listBackups w.backupFileName folder) s.drive.files answer) = true
  | .createFile i folder time => s.Calls i (.createFile folder) ∧ s.drive.now ≤ time
  | .updateFile i id time => s.Calls i (.updateFile id) ∧ s.drive.now ≤ time

instance (s : Backups) : DecidablePred (Enabled testnet s)
  | .save _ _ _ _ | .fail _ => inferInstanceAs (Decidable True)
  | .listFolders _ _ _ | .createFolder _ _ _ | .listFiles _ _ _ | .createFile _ _ _
  | .updateFile _ _ _ => inferInstanceAs (Decidable (_ ∧ _))

/-- What an event does.  A worker behind its last call is done. -/
def act (s : Backups) : Event → Backups
  | .save backupFileName deviceId eclairDBFile iv =>
    match ChannelsBackupWorker.getEncryptedBackup c (keys backupFileName) eclairDBFile iv with
    | .ok encryptedBackup =>
      let worker : Worker :=
        { backupFileName := backupFileName
          deviceId := deviceId
          eclairDBFile := eclairDBFile
          encryptedBackup := encryptedBackup }
      { s with workers := s.workers ++ [worker] }
    | .error _ => s
  | .listFolders i creates answer =>
    match answer with
    | [] => s.goOn i (.createFolder creates)
    | folder :: _ => s.goOn i (withFolder creates folder.id)
  | .createFolder i creates time =>
    let folder : Folder := { id := s.drive.nextId, name := BACKUP_FOLDER_NAME testnet }
    goOn i (withFolder creates folder.id) { s with drive := { s.drive with
      folders := s.drive.folders ++ [folder]
      nextId := s.drive.nextId + 1
      now := time } }
  | .listFiles i _ answer =>
    match filterBestBackup answer with
    | none => s.goOn i (.listFolders true)
    | some file => s.goOn i (.updateFile file.id)
  | .createFile i folder time =>
    match s.workers[i]? with
    | some w => (s.createFile w folder time).endWork i
    | none => s
  | .updateFile i id time =>
    match s.workers[i]? with
    | some w => (s.updateFile w id time).endWork i
    | none => s
  | .fail i => s.endWork i

/-- One event, if it is possible. -/
def step (s : Backups) (event : Event) : Option Backups :=
  if Enabled testnet s event then some (s.act c keys testnet event) else none

theorem step_eq_some_iff {s s' : Backups} {event : Event} :
    step c keys testnet s event = some s' ↔
      Enabled testnet s event ∧ s.act c keys testnet event = s' := by
  unfold step
  split_ifs with h
  · simp [h]
  · simp [h]

end

end Backups

end GoogleDrive

end EclairMobile
