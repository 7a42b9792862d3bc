import EclairMobile.Activities.RestoreChannelsBackupActivity
import EclairMobile.Lib.HashMap
import Mathlib.Logic.Function.Basic

/-!
# The restore screen

`RestoreChannelsBackupActivity` with its access requests (`ChannelsBackupBaseActivity`), event by
event: the buttons, the requests for access, the scan threads, the tasks of Google Drive, the timers
and the file picker.  What has been asked for and has not come back is part of the state.
-/

namespace EclairMobile

namespace RestoreChannelsBackupActivity

open Lib

/-- The steps of the screen; that of an unreadable backup with the text that is shown. -/
inductive RestoreStep
  | INIT
  | REQUESTING_ACCESS
  | SCANNING
  | FOUND_ERROR (type : BackupTypes) (message : String)
  | FOUND
  | FOUND_WITH_CONFLICT
  | NOT_FOUND
  | RESTORE_DONE
  deriving DecidableEq, Repr

/-- The value of the constant `RESTORE_BACKUP_...`. -/
def RestoreStep.value : RestoreStep → ℕ
  | .INIT => 0
  | .REQUESTING_ACCESS => 1
  | .SCANNING => 2
  | .FOUND_ERROR _ _ => 3
  | .FOUND => 4
  | .FOUND_WITH_CONFLICT => 5
  | .NOT_FOUND => 6
  | .RESTORE_DONE => 7

/-- Where a scan thread stands: what it does next. -/
inductive ThreadPc
  | setRestoreStep
  | putLocal
  | scanLocalDevice
  | putGdrive
  | scanGoogleDrive
  | postCheck
  deriving DecidableEq, Repr

/-- The thread of `startScanning`. -/
structure ScanThread where
  hasGdriveAccess : Bool
  pc : ThreadPc := .setRestoreStep
  deriving DecidableEq, Repr

/-- The backup file listed on Google Drive whose content is being retrieved. -/
structure DriveFile where
  modified : Date
  isFromDevice : Bool
  deriving DecidableEq, Repr

/-- What a source gives: nothing, a file that cannot be read, or the channels of a backup. -/
inductive ScanOutcome
  | notFound
  | unreadable (message : String)
  | found (localCommitIndexMap : IndexMap) (modified : Date)

/-- What `requestAccess` finds: the permission for the storage, and a signed-in Google account. -/
structure AccessEnv where
  hasLocalAccess : Bool
  hasSigninAccount : Bool
  deriving DecidableEq, Repr

/-- The two checkboxes. -/
structure Checkboxes where
  checkLocal : Bool
  checkGdrive : Bool
  deriving DecidableEq, Repr

structure Screen where
  restoreStep : RestoreStep := .INIT
  mExpectedBackupsMap : ScanMap := ∅
  mBestBackup : Option BackupScanOk := none
  /-- The access to each source: `some none` while it is pending. -/
  accessRequestsMap : BackupTypes → Option (Option Bool) := fun _ => none
  isRestoring : Bool := false
  /-- `checkAccessRequestIsDone` is posted. -/
  accessCheck : Bool := false
  permissionRequests : ℕ := 0
  revocations : ℕ := 0
  signIns : ℕ := 0
  threads : List ScanThread := []
  /-- The tasks of `listBackupsLegacy` and `getFileContent`. -/
  listings : ℕ := 0
  contents : List DriveFile := []
  /-- `checkScanningDone` is posted this many times. -/
  scanChecks : ℕ := 0
  pickers : ℕ := 0
  /-- The threads of `restoreBestBackup`. -/
  restores : ℕ := 0
  /-- History: the sources that the attempt has set out to scan and that have recorded no result. -/
  unrecorded : BackupTypes → Bool := fun _ => false

namespace Screen

/-! ### Access -/

/-- `startScanning`: the results are cleared, and a thread scans the sources with access. -/
def startScanning (s : Screen) : Screen :=
  let hasAccess type := s.accessRequestsMap type = some (some true)
  let s := { s with mBestBackup := none, mExpectedBackupsMap := ∅, unrecorded := fun _ => false }
  if hasAccess .LOCAL then
    { s with
      threads := { hasGdriveAccess := hasAccess .GDRIVE } :: s.threads
      unrecorded := fun type => hasAccess type }
  else { s with restoreStep := .INIT }

/-- `accessRequestsMap.containsValue(Option.apply(null))`. -/
def accessPending (s : Screen) : Prop := ∃ type, s.accessRequestsMap type = some none

instance (s : Screen) : Decidable s.accessPending :=
  decidable_of_iff
    (s.accessRequestsMap .LOCAL = some none ∨ s.accessRequestsMap .GDRIVE = some none)
    ⟨fun h => h.elim (fun h => ⟨_, h⟩) (fun h => ⟨_, h⟩), fun ⟨type, h⟩ => by
      cases type
      · exact Or.inl h
      · exact Or.inr h⟩

/-- A check that is posted already is removed.  An empty map has no pending access either. -/
def checkAccessRequestIsDone (s : Screen) : Screen :=
  if s.accessPending then { s with accessCheck := true }
  else startScanning { s with accessCheck := false }

def putAccess (s : Screen) (type : BackupTypes) (access : Option Bool) : Screen :=
  { s with accessRequestsMap := Function.update s.accessRequestsMap type (some access) }

def requestLocalAccessOrApply (s : Screen) (env : AccessEnv) : Screen :=
  if env.hasLocalAccess then s.putAccess .LOCAL (some true)
  else { s with permissionRequests := s.permissionRequests + 1 }

def requestGDriveAccess (s : Screen) (env : AccessEnv) : Screen :=
  if env.hasSigninAccount then { s with revocations := s.revocations + 1 }
  else { s with signIns := s.signIns + 1 }

/-- `requestAccess` up to the check: what is asked for each source. -/
def askAccess (s : Screen) (boxes : Checkboxes) (env : AccessEnv) : Screen :=
  let s := { s with accessRequestsMap := fun _ => none }
  let s := if boxes.checkLocal then (s.putAccess .LOCAL none).requestLocalAccessOrApply env else s
  if boxes.checkGdrive then (s.putAccess .GDRIVE none).requestGDriveAccess env else s

def requestAccess (s : Screen) (boxes : Checkboxes) (env : AccessEnv) : Screen :=
  if boxes.checkLocal ∨ boxes.checkGdrive then (s.askAccess boxes env).checkAccessRequestIsDone
  else startScanning { s with accessRequestsMap := fun _ => none }

/-! ### Results -/

section Results

variable (bucket : BackupTypes → ℕ)

/-- `mExpectedBackupsMap.put(type, null)`. -/
def putNull (s : Screen) (type : BackupTypes) : Screen :=
  { s with mExpectedBackupsMap := put bucket type none s.mExpectedBackupsMap }

/-- A source records its result. -/
def record (s : Screen) (type : BackupTypes) (result : Option BackupScanResult) : Screen :=
  { s with
    mExpectedBackupsMap := put bucket type (some result) s.mExpectedBackupsMap
    unrecorded := Function.update s.unrecorded type false }

/-- The backup that `decryptFile` reads. -/
def decryptFile (type : BackupTypes) (localCommitIndexMap : IndexMap) (modified : Date) :
    BackupScanOk where
  type := type
  localCommitIndexMap := localCommitIndexMap
  lastModified := modified
  file := (match type with | .LOCAL => "LOCAL" | .GDRIVE => "GDRIVE") ++ "-restore.sqlite.tmp"

/-- The result of the device, scanned or picked. -/
def localResult : ScanOutcome → Option BackupScanResult
  | .notFound => none
  | .unreadable message => some (.failure message)
  | .found localCommitIndexMap modified =>
    some (.ok (decryptFile .LOCAL localCommitIndexMap modified))

def handleBackups (s : Screen) : Screen :=
  match findBestBackup s.mExpectedBackupsMap with
  | .ok (some found) =>
    { s with
      restoreStep := if found.isFromDevice then .FOUND else .FOUND_WITH_CONFLICT
      mBestBackup := some found }
  | .ok none => { s with restoreStep := .NOT_FOUND, mBestBackup := none }
  | .error (.unreadableBackup type message) => { s with restoreStep := .FOUND_ERROR type message }
  | .error .nullPointer => { s with restoreStep := .INIT }

/-- `mExpectedBackupsMap.containsValue(null)`. -/
def containsNull (s : Screen) : Prop := ∃ e ∈ s.mExpectedBackupsMap.entries, e.2.isNone

instance (s : Screen) : Decidable s.containsNull :=
  inferInstanceAs (Decidable (∃ e ∈ _, _))

def checkScanningDone (s : Screen) : Screen :=
  let s := { s with mBestBackup := none }
  if s.mExpectedBackupsMap.entries = [] then { s with restoreStep := .NOT_FOUND }
  else if s.containsNull then { s with scanChecks := s.scanChecks + 1 }
  else s.handleBackups

end Results

/-! ### Buttons -/

def scan (s : Screen) (boxes : Checkboxes) (env : AccessEnv) : Screen :=
  if boxes.checkLocal ∨ boxes.checkGdrive then
    requestAccess { s with restoreStep := .REQUESTING_ACCESS, unrecorded := fun _ => false } boxes
      env
  else s

def browse (bucket : BackupTypes → ℕ) (s : Screen) : Screen :=
  { putNull bucket { s with restoreStep := .SCANNING } .LOCAL with
    pickers := s.pickers + 1
    unrecorded := fun type => type = .LOCAL }

/-- The step in which the button is visible. -/
def canTryAgain (s : Screen) : Prop := s.restoreStep.value ∈ [3, 4, 5, 6] ∧ s.isRestoring = false

instance (s : Screen) : Decidable s.canTryAgain := inferInstanceAs (Decidable (_ ∧ _))

/-- `restoreBestBackup`; `exists` tells whether the file of the backup does. -/
def restoreBestBackup (s : Screen) (fileExists : Bool) : Screen :=
  if s.mBestBackup.isSome ∧ fileExists then
    { s with isRestoring := true, restores := s.restores + 1 }
  else s

end Screen

/-! ### Events -/

inductive DriveListing
  | found (file : DriveFile)
  | empty
  /-- The call failed for want of authorization; access is requested again. -/
  | authFailure (boxes : Checkboxes) (env : AccessEnv)
  | failure

inductive DriveContent
  | content (outcome : Except String IndexMap)
  | failure

/-- What the file picker gives back. -/
inductive PickResult
  | canceled
  | noData
  | picked (outcome : ScanOutcome)

inductive Event
  | scan (boxes : Checkboxes) (env : AccessEnv)
  | browse
  | tryAgain
  | confirmRestore (fileExists : Bool)
  /-- The posted check of the access requests runs. -/
  | accessCheck
  | permissionResult (granted : Bool)
  | revocation (success : Bool)
  | signInResult (success : Bool)
  /-- The next action of a scan thread; `outcome` is what the device gives if that is its scan. -/
  | scanThread (thread : ScanThread) (outcome : ScanOutcome)
  | listing (result : DriveListing)
  | content (file : DriveFile) (result : DriveContent)
  /-- A posted `checkScanningDone` runs. -/
  | scanCheck
  | pickResult (result : PickResult)
  /-- The end of a thread of `restoreBestBackup`. -/
  | restoreThread (moved : Bool)

namespace Screen

variable (bucket : BackupTypes → ℕ)

/-- One action of a scan thread. -/
def runThread (s : Screen) (thread : ScanThread) (outcome : ScanOutcome) : Screen :=
  let s := { s with threads := s.threads.erase thread }
  let next (s : Screen) pc := { s with threads := { thread with pc := pc } :: s.threads }
  match thread.pc with
  | .setRestoreStep => next { s with restoreStep := .SCANNING } .putLocal
  | .putLocal => next (putNull bucket s .LOCAL) .scanLocalDevice
  | .scanLocalDevice =>
    next (record bucket s .LOCAL (localResult outcome))
      (if thread.hasGdriveAccess then .putGdrive else .postCheck)
  | .putGdrive => next (putNull bucket s .GDRIVE) .scanGoogleDrive
  | .scanGoogleDrive => next { s with listings := s.listings + 1 } .postCheck
  | .postCheck => { s with scanChecks := s.scanChecks + 1 }

/-- The listeners of the task that lists the backups. -/
def onListing (s : Screen) : DriveListing → Screen
  | .found file => { s with contents := file :: s.contents }
  | .empty => record bucket s .GDRIVE none
  | .authFailure boxes env =>
    requestAccess { s with mExpectedBackupsMap := ∅, restoreStep := .REQUESTING_ACCESS } boxes env
  | .failure => record bucket s .GDRIVE none

/-- The listeners of the task that retrieves a backup. -/
def onContent (s : Screen) (file : DriveFile) : DriveContent → Screen
  | .content (.ok localCommitIndexMap) =>
    record bucket s .GDRIVE (some (.ok
      { decryptFile .GDRIVE localCommitIndexMap file.modified with
        isFromDevice := file.isFromDevice }))
  | .content (.error message) => record bucket s .GDRIVE (some (.failure message))
  | .failure => record bucket s .GDRIVE none

/-- `onActivityResult` of the file picker. -/
def onPickResult (s : Screen) : PickResult → Screen
  | .canceled | .noData => s
  | .picked outcome => (record bucket s .LOCAL (localResult outcome)).handleBackups

/-- One event, if it is possible. -/
def step (s : Screen) : Event → Option Screen
  | .scan boxes env => if s.restoreStep = .INIT then some (s.scan boxes env) else none
  | .browse => if s.restoreStep = .INIT then some (s.browse bucket) else none
  | .tryAgain => if s.canTryAgain then some { s with restoreStep := .INIT } else none
  | .confirmRestore fileExists =>
    if s.restoreStep.value ∈ [4, 5] ∧ s.isRestoring = false then
      some (s.restoreBestBackup fileExists)
    else none
  | .accessCheck => if s.accessCheck then some s.checkAccessRequestIsDone else none
  | .permissionResult granted =>
    if 0 < s.permissionRequests then
      some (putAccess { s with permissionRequests := s.permissionRequests - 1 } .LOCAL
        (some granted))
    else none
  | .revocation success =>
    if 0 < s.revocations then
      let s := { s with revocations := s.revocations - 1 }
      some (if success then { s with signIns := s.signIns + 1 }
        else s.putAccess .GDRIVE (some false))
    else none
  | .signInResult success =>
    if 0 < s.signIns then
      some (putAccess { s with signIns := s.signIns - 1 } .GDRIVE (some success))
    else none
  | .scanThread thread outcome =>
    if thread ∈ s.threads then some (s.runThread bucket thread outcome) else none
  | .listing result =>
    if 0 < s.listings then some (onListing bucket { s with listings := s.listings - 1 } result)
    else none
  | .content file result =>
    if file ∈ s.contents then
      some (onContent bucket { s with contents := s.contents.erase file } file result)
    else none
  | .scanCheck =>
    if 0 < s.scanChecks then some (checkScanningDone { s with scanChecks := s.scanChecks - 1 })
    else none
  | .pickResult result =>
    if 0 < s.pickers then some (onPickResult bucket { s with pickers := s.pickers - 1 } result)
    else none
  | .restoreThread moved =>
    if 0 < s.restores then
      let s := { s with restores := s.restores - 1, isRestoring := false }
      some (if moved then { s with restoreStep := .RESTORE_DONE } else s)
    else none

end Screen

end RestoreChannelsBackupActivity

end EclairMobile
