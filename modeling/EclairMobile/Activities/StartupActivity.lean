import EclairMobile.Activities.SeedWrites
import EclairMobile.Lib.Reach
import EclairMobile.Utils.KeystoreHelper

/-!
# StartupActivity

From the seed file to the running node: migration, the check of the data directory, the PIN, the
thread that opens the seed file, the task that boots the node, and what comes back from it.  Threads
and tasks run beside the screen, delayed actions outlive it, and the process may be killed anywhere.
-/

namespace EclairMobile

open Lib AesCbcWithIntegrity WalletUtils EclairActivity

/-! ### The keys of a wallet -/

/-- What the Bitcoin library derives from a seed. -/
structure DeterministicWallet (Key : Type) where
  generate : Bytes → Key
  derivePrivateKey : Key → String → Key
  secretkeybytes : Key → ByteVector32
  /-- `privateKey().publicKey().hash160().toHex()`. -/
  hash160 : Key → String
  /-- `LocalKeyManager.nodeKeyBasePath(WalletUtils.getChainHash())`. -/
  nodeKeyBasePath : String

/-- What the app keeps of a seed. -/
structure NodeKeys where
  seedHash : String
  backupKey_v1 : ByteVector32
  backupKey_v2 : ByteVector32

namespace DeterministicWallet

variable {Key : Type} (w : DeterministicWallet Key) (testnet : Bool)

def generateBackupKey_v1 (pk : Key) : ByteVector32 :=
  w.secretkeybytes (w.derivePrivateKey pk "m/49'")

def generateBackupKey_v2 (pk : Key) : ByteVector32 :=
  w.secretkeybytes (w.derivePrivateKey pk (if testnet then "m/42'/1'" else "m/42'/0'"))

def nodeKeys (seed : Bytes) : NodeKeys :=
  let pk := w.derivePrivateKey (w.generate seed) w.nodeKeyBasePath
  { seedHash := w.hash160 pk
    backupKey_v1 := w.generateBackupKey_v1 pk
    backupKey_v2 := w.generateBackupKey_v2 testnet pk }

end DeterministicWallet

def UNENCRYPTED_SEED_NAME : String := "seed.dat"
def ECLAIR_DB_FILE : String := "eclair.sqlite"
def VERSION_CODE : ℕ := 59

/-! ### The screen -/

inductive StartupMessage
  | start_error_generic
  | start_error_unencrypted
  | start_error_datadir_unreadable
  | start_error_datadir_not_directory
  | start_error_biometric
  | start_error_wrong_password
  | start_error_unreadable_seed
  | start_error_improper
  | start_error_connectivity
  | start_error_timeout
  /-- What `encryptWallet` reports. -/
  | encryptSeed (message : Message)
  deriving DecidableEq, Repr

/-- `showError`. -/
structure StartupError where
  message : StartupMessage
  showShareLogs : Bool := false
  showRestart : Bool := false
  showFAQ : Bool := false
  deriving DecidableEq, Repr

/-- Where the database of the channels comes from. -/
inductive EclairDB
  /-- It was there, or was moved to its place by the migration. -/
  | found
  | restored
  /-- `Setup` created it. -/
  | created
  deriving DecidableEq, Repr

/-- What the process keeps in memory beside the PIN; the node is known by its seed. -/
structure AppMemory where
  appKit : Option Bytes := none
  dbHelper : Bool := false
  seedHash : Option String := none
  backupKey_v1 : Option ByteVector32 := none
  backupKey_v2 : Option ByteVector32 := none

/-- A seed file that was opened. -/
structure OpenedSeed where
  password : String
  seed : Bytes
  keys : NodeKeys

/-- What the thread of `launchStartupTask` does next. -/
inductive StartupPc
  | setPin
  | setSeedHash
  | setBackupKey_v1
  | setBackupKey_v2
  | checkRestore
  | checkAccess
  | setStarting
  | execute
  deriving DecidableEq, Repr

/-- The thread of `launchStartupTask`. -/
inductive ThreadState
  | readSeed (password : String)
  | opened (o : OpenedSeed) (pc : StartupPc)

structure StartupThread where
  /-- The instance of the screen that started it. -/
  activity : ℕ
  state : ThreadState

/-- What the task does next. -/
inductive TaskPc
  | init
  | setup
  | bootstrap
  deriving DecidableEq, Repr

/-- `StartupTask`. -/
structure StartupTask where
  seed : Bytes
  pc : TaskPc := .init
  deriving DecidableEq, Repr

inductive StartupStatus
  | SUCCESS
  | NETWORK_ERROR
  | GENERIC_ERROR
  | TIMEOUT_ERROR
  | NETWORK_DB_ERROR
  deriving DecidableEq, Repr

/-- What a thread posts to the main thread. -/
inductive StartupPost
  | wrongPassword
  | error (e : StartupError)
  deriving DecidableEq, Repr

inductive OpenedScreen
  | home
  | restoreChannels
  | setupBackup (ignoreGDrive : Bool)
  deriving DecidableEq, Repr

structure StartupActivity (SecretKey : Type) where
  -- what survives the process
  signIn : SignIn SecretKey
  eclairDB : Option EclairDB := none
  networkDB : Bool := false
  walletOrigin : Option ℕ := none
  channelsRestoreDone : Bool := false
  hasStartedOnce : Bool := false
  lastUsedVersion : ℕ := 0
  -- the process
  memory : AppMemory := {}
  threads : List StartupThread := []
  tasks : List StartupTask := []
  completions : List StartupStatus := []
  posts : List StartupPost := []
  /-- `startNode`, `checkWalletDatadir` and `encryptWallet` are posted with a delay. -/
  delayedStarts : ℕ := 0
  delayedChecks : ℕ := 0
  delayedEncryptions : List Bytes := []
  -- the screen
  activity : ℕ := 0
  isStartingNode : Bool := false
  checkExternalStorageState : Bool := true
  error : Option StartupError := none
  pickInitWallet : Bool := false
  storageDialog : Bool := false
  /-- The PIN was asked for.  A dialog that is dismissed may still confirm. -/
  pinAsked : Bool := false
  biometricPrompts : ℕ := 0
  /-- The dialogs of `encryptWallet`, the second with the PIN of the first. -/
  pinDialogs : List Bytes := []
  confirmDialogs : List (Bytes × String) := []
  /-- History: the screens that were opened, with the PIN and the memory at that moment. -/
  screens : List (OpenedScreen × Option String × AppMemory) := []

/-- What the screen meets in the system. -/
structure StartupEnv where
  canRead : Bool := true
  isDirectory : Bool := true
  canAuthenticate : Bool := true
  externalStorageWritable : Bool := true
  hasLocalAccess : Bool := true
  /-- The outcomes of the file operations. -/
  deletesNetworkDB : Bool := true
  movesSqlite : Bool := true
  readsUnencryptedSeed : Bool := true
  deletesUnencryptedSeed : Bool := true
  deriving DecidableEq, Repr

namespace StartupActivity

variable {SecretKey Key : Type}

def phone (s : StartupActivity SecretKey) : Phone := s.signIn.phone

def setPhone (phone : Phone) (s : StartupActivity SecretKey) : StartupActivity SecretKey :=
  { s with signIn := { s.signIn with phone := phone } }

def setDatadir (datadir : Datadir) (s : StartupActivity SecretKey) : StartupActivity SecretKey :=
  s.setPhone { s.phone with datadir := datadir }

def setPin (pin : Option String) (s : StartupActivity SecretKey) : StartupActivity SecretKey :=
  s.setPhone { s.phone with pin := pin }

def showError (e : StartupError) (s : StartupActivity SecretKey) : StartupActivity SecretKey :=
  { s with error := some e }

def startActivity (screen : OpenedScreen) (s : StartupActivity SecretKey) :
    StartupActivity SecretKey :=
  { s with screens := s.screens ++ [(screen, s.phone.pin, s.memory)] }

def isAppReady (s : StartupActivity SecretKey) : Prop :=
  s.memory.appKit.isSome ∧ s.memory.dbHelper = true ∧ s.phone.pin.isSome ∧
    s.memory.seedHash.isSome ∧ s.memory.backupKey_v2.isSome

instance (s : StartupActivity SecretKey) : Decidable s.isAppReady :=
  inferInstanceAs (Decidable (_ ∧ _))

def clearApp (s : StartupActivity SecretKey) : StartupActivity SecretKey :=
  { s.setPin none with memory := { dbHelper := s.memory.dbHelper } }

/-! ### Migrations -/

/-- Removes a file of the data directory. -/
def deleteFile (name : String) (s : StartupActivity SecretKey) : StartupActivity SecretKey :=
  s.setDatadir (s.phone.datadir.map fun files => Function.update files name none)

def migrateTestnetSqlite (env : StartupEnv) (s : StartupActivity SecretKey) :
    StartupActivity SecretKey :=
  if (fileAt s.phone.datadir ECLAIR_DB_FILE).isSome ∧ s.eclairDB = none then
    if env.movesSqlite then { s.deleteFile ECLAIR_DB_FILE with eclairDB := some .found }
    else s.showError
      { message := .start_error_generic, showShareLogs := true, showRestart := true }
  else s

/-- The network database is deleted, or `none` if that fails. -/
def deleteNetworkDB (env : StartupEnv) (s : StartupActivity SecretKey) :
    Option (StartupActivity SecretKey) :=
  if s.networkDB ∧ ¬env.deletesNetworkDB then none else some { s with networkDB := false }

/-- Whether the migration went through, with the screen afterwards: what was moved before the
network database could not be deleted stays moved. -/
def preStartMigration (testnet : Bool) (env : StartupEnv) (s : StartupActivity SecretKey) :
    Bool × StartupActivity SecretKey :=
  if 0 < s.lastUsedVersion ∧ s.hasStartedOnce then
    let s := if s.lastUsedVersion ≤ 15 ∧ testnet then s.migrateTestnetSqlite env else s
    if s.lastUsedVersion ≤ 49 then
      match s.deleteNetworkDB env with
      | some s => (true, s)
      | none => (false, s)
    else (true, s)
  else (true, s)

/-- The event that makes the node push a backup, for versions up to 48, is left out. -/
def afterStartupMigration (s : StartupActivity SecretKey) : StartupActivity SecretKey :=
  { s with lastUsedVersion := VERSION_CODE }

/-! ### Start of the node -/

def finishAndGoToHome (s : StartupActivity SecretKey) : StartupActivity SecretKey :=
  (afterStartupMigration { s with hasStartedOnce := true }).startActivity .home

def launchStartupTask (password : String) (s : StartupActivity SecretKey) :
    StartupActivity SecretKey :=
  { s with threads := { activity := s.activity, state := .readSeed password } :: s.threads }

def showPinDialog (s : StartupActivity SecretKey) : StartupActivity SecretKey :=
  { s with pinAsked := true }

def startNode (env : StartupEnv) (s : StartupActivity SecretKey) : StartupActivity SecretKey :=
  let s := { s with error := none, pickInitWallet := false }
  if ¬s.isAppReady then
    if s.phone.datadir.isSome ∧ ¬env.canRead then
      s.showError { message := .start_error_datadir_unreadable, showShareLogs := true,
                    showRestart := true, showFAQ := true }
    else if s.phone.datadir.isSome ∧ ¬env.isDirectory then
      s.showError { message := .start_error_datadir_not_directory, showShareLogs := true,
                    showRestart := true, showFAQ := true }
    else
      match s.phone.pin with
      | none =>
        if s.phone.useBiometrics ∧ env.canAuthenticate then
          { s with biometricPrompts := s.biometricPrompts + 1 }
        else s.showPinDialog
      | some currentPassword => s.launchStartupTask currentPassword
  else s.finishAndGoToHome

/-- Whether the wallet can be opened, with the screen afterwards. -/
def checkWalletDatadir (env : StartupEnv) (s : StartupActivity SecretKey) :
    Bool × StartupActivity SecretKey :=
  match s.phone.datadir with
  | none => (false, { s with pickInitWallet := true })
  | some files =>
    match files UNENCRYPTED_SEED_NAME, files SEED_NAME with
    | some unencryptedSeed, none =>
      -- unencrypted seed file content is a seed and not a mnemonic, so use v1
      (false, if env.readsUnencryptedSeed then
          { s.showError { message := .start_error_unencrypted } with
            delayedEncryptions := unencryptedSeed :: s.delayedEncryptions }
        else s)
    | some _, some _ =>
      -- encrypted seed is the reference
      (false, if env.deletesUnencryptedSeed then s.deleteFile UNENCRYPTED_SEED_NAME else s)
    | none, some _ => (true, s)
    | none, none => (false, { s with pickInitWallet := true })

def checkup (testnet : Bool) (env : StartupEnv) (s : StartupActivity SecretKey) :
    StartupActivity SecretKey :=
  match s.preStartMigration testnet env with
  | (false, s) => s
  | (true, s) =>
    match s.checkWalletDatadir env with
    | (false, s) => s
    | (true, s) =>
      if s.hasStartedOnce ∧ s.checkExternalStorageState ∧ ¬env.externalStorageWritable then
        { s with storageDialog := true }
      else s.startNode env

def shouldRestoreChannelsBackup (s : StartupActivity SecretKey) : Bool :=
  s.walletOrigin.getD WALLET_ORIGIN_RESTORED_FROM_SEED = WALLET_ORIGIN_RESTORED_FROM_SEED &&
    !s.channelsRestoreDone && s.eclairDB.isNone

/-! ### The thread -/

/-- The `catch` blocks of the thread. -/
def threadError (activity : ℕ) (t : Throwable) (s : StartupActivity SecretKey) :
    StartupActivity SecretKey :=
  let s := s.clearApp
  let s := if activity = s.activity then { s with isStartingNode := false } else s
  match t with
  | .generalSecurityException _ => { s with posts := .wrongPassword :: s.posts }
  | .ioException _ =>
    { s with posts := .error { message := .start_error_unreadable_seed, showShareLogs := true,
                               showRestart := true, showFAQ := true } :: s.posts }
  | _ =>
    { s with posts := .error { message := .start_error_generic, showShareLogs := true,
                               showRestart := true, showFAQ := true } :: s.posts }

section

variable (c : Crypto) (d : SeedDecoders) (w : DeterministicWallet Key) (testnet : Bool)

/-- The seed file is read, decrypted and decoded, and the keys are derived. -/
def openSeed (datadir : Datadir) (password : String) : Except Throwable OpenedSeed := do
  let pair ← readSeedAndDecrypt c datadir password
  let seed ← decodeSeed d pair.1 pair.2
  .ok { password := password, seed := seed, keys := w.nodeKeys testnet seed }

/-- One step of a thread that opened the seed, with the thread if it goes on. -/
def runOpened (env : StartupEnv) (activity : ℕ) (o : OpenedSeed) (s : StartupActivity SecretKey) :
    StartupPc → StartupActivity SecretKey × Option StartupPc
  | .setPin => (s.setPin (some o.password), some .setSeedHash)
  | .setSeedHash =>
    ({ s with memory := { s.memory with seedHash := some o.keys.seedHash } }, some .setBackupKey_v1)
  | .setBackupKey_v1 =>
    ({ s with memory := { s.memory with backupKey_v1 := some o.keys.backupKey_v1 } },
      some .setBackupKey_v2)
  | .setBackupKey_v2 =>
    ({ s with memory := { s.memory with backupKey_v2 := some o.keys.backupKey_v2 } },
      some .checkRestore)
  | .checkRestore =>
    -- stop if we need to restore channels backup
    if s.shouldRestoreChannelsBackup then (s.startActivity .restoreChannels, none)
    else (s, some .checkAccess)
  | .checkAccess =>
    -- stop if no access to local storage for local backup
    if ¬env.hasLocalAccess then (s.startActivity (.setupBackup s.hasStartedOnce), none)
    else (s, some .setStarting)
  | .setStarting =>
    (if activity = s.activity then { s with isStartingNode := true } else s, some .execute)
  | .execute => ({ s with tasks := { seed := o.seed } :: s.tasks }, none)

/-- The thread goes on, or ends. -/
def proceed (t : StartupThread) (o : OpenedSeed) :
    StartupActivity SecretKey × Option StartupPc → StartupActivity SecretKey
  | (s, some pc) => { s with threads := { t with state := .opened o pc } :: s.threads }
  | (s, none) => s

/-- One step of a thread, which the fault interrupts if there is one. -/
def runThread (env : StartupEnv) (fault : Option Throwable) (t : StartupThread)
    (s : StartupActivity SecretKey) : StartupActivity SecretKey :=
  match fault, t.state with
  | some e, _ => s.threadError t.activity e
  | none, .readSeed password =>
    match openSeed c d w testnet s.phone.datadir password with
    | .ok o => { s with threads := { t with state := .opened o .setPin } :: s.threads }
    | .error e => s.threadError t.activity e
  | none, .opened o pc => proceed t o (s.runOpened env t.activity o pc)

end

/-! ### The task -/

/-- How a step of the task ends.  A step that fails late has had its effect. -/
inductive TaskEnd
  | goesOn
  | fails (status : StartupStatus) (late : Bool)
  deriving DecidableEq, Repr

/-- What a step of the task does: `checkupInit`, `new Setup`, which creates the databases that are
missing, and the assignment of the node. -/
def taskEffect (t : StartupTask) (s : StartupActivity SecretKey) : StartupActivity SecretKey :=
  match t.pc with
  | .init => { s with memory := { s.memory with dbHelper := true } }
  | .setup => { s with eclairDB := some (s.eclairDB.getD .created), networkDB := true }
  | .bootstrap => { s with memory := { s.memory with appKit := some t.seed } }

/-- One step of the task. -/
def runTask (t : StartupTask) (ending : TaskEnd) (s : StartupActivity SecretKey) :
    StartupActivity SecretKey :=
  match ending with
  | .goesOn =>
    let s := taskEffect t s
    match t.pc with
    | .init => { s with tasks := { t with pc := .setup } :: s.tasks }
    | .setup => { s with tasks := { t with pc := .bootstrap } :: s.tasks }
    | .bootstrap => { s with completions := .SUCCESS :: s.completions }
  | .fails status late =>
    let s := if late then taskEffect t s else s
    { s with completions := status :: s.completions }

def processStartupFinish (testnet : Bool) (env : StartupEnv) (status : StartupStatus)
    (s : StartupActivity SecretKey) : StartupActivity SecretKey :=
  let s :=
    match status with
    | .SUCCESS =>
      if s.isAppReady then s.finishAndGoToHome
      else
        -- empty appkit, something went wrong
        { s.showError { message := .start_error_improper } with
          delayedStarts := s.delayedStarts + 1 }
    | .NETWORK_ERROR =>
      s.clearApp.showError
        { message := .start_error_connectivity, showShareLogs := true, showRestart := true }
    | .TIMEOUT_ERROR =>
      s.clearApp.showError
        { message := .start_error_timeout, showShareLogs := true, showRestart := true,
          showFAQ := true }
    | .NETWORK_DB_ERROR =>
      match s.deleteNetworkDB env with
      | none =>
        s.clearApp.showError
          { message := .start_error_generic, showShareLogs := true, showRestart := true,
            showFAQ := true }
      | some s => s.checkup testnet env
    | .GENERIC_ERROR =>
      s.clearApp.showError
        { message := .start_error_generic, showShareLogs := true, showRestart := true,
          showFAQ := true }
  { s with isStartingNode := false }

/-! ### The encryption of an unencrypted seed -/

def callback (env : StartupEnv) (s : StartupActivity SecretKey) :
    Shown → StartupActivity SecretKey
  | .onEncryptSeedFailure message =>
    { s.showError { message := .encryptSeed message } with delayedChecks := s.delayedChecks + 1 }
  | .onEncryptSeedSuccess => (s.checkWalletDatadir env).2
  | .toast _ => s

/-- What `encryptWallet` meets: its faults, and the salt and the vector it draws. -/
structure EncryptEnv where
  faults : EncryptFaults := {}
  salt : RandomBytes PBE_SALT_LENGTH_BITS
  iv : RandomBytes IV_LENGTH_BYTES

/-- The phone after the second dialog. -/
def encrypted (c : Crypto) (encryptEnv : EncryptEnv) (payload : Bytes) (newPin confirmPin : String)
    (phone : Phone) : Phone :=
  ((EclairActivity.encryptWallet c encryptEnv.faults payload EncryptedSeed.SEED_FILE_VERSION_1
    (some newPin) confirmPin encryptEnv.salt encryptEnv.iv).exec { phone with shown := [] }).2

def confirmPin (c : Crypto) (env : StartupEnv) (encryptEnv : EncryptEnv) (payload : Bytes)
    (newPin confirmPin : String) (s : StartupActivity SecretKey) : StartupActivity SecretKey :=
  let phone := encrypted c encryptEnv payload newPin confirmPin s.phone
  phone.shown.foldl (callback env) (s.setPhone phone)

/-! ### Events -/

inductive Event
  /-- A new instance of the screen. -/
  | create
  | resume (env : StartupEnv)
  /-- The warning about the external storage is confirmed. -/
  | storageOk (env : StartupEnv)
  | pin (pinValue : String)
  | biometricFailed
  | biometricSucceeded
  /-- The next step of a thread. -/
  | thread (i : ℕ) (env : StartupEnv) (fault : Option Throwable)
  | post (post : StartupPost)
  | task (t : StartupTask) (ending : TaskEnd)
  | complete (status : StartupStatus) (env : StartupEnv)
  /-- No screen is registered for the event. -/
  | drop (status : StartupStatus)
  | delayedStart (env : StartupEnv)
  | delayedCheck (env : StartupEnv)
  | delayedEncryption (payload : Bytes)
  | newPin (payload : Bytes) (newPin : String)
  | confirmPin (payload : Bytes) (newPin confirmPin : String) (env : StartupEnv)
      (encryptEnv : EncryptEnv)
  /-- `RestoreChannelsBackupActivity` moves a backup to the place of the database. -/
  | restoreMoves
  /-- It is done, with or without a backup. -/
  | restoreDone
  | kill

/-- The restore screen was opened. -/
def restores (s : StartupActivity SecretKey) : Bool :=
  s.screens.any fun a => a.1 = .restoreChannels

/-- Which events are possible. -/
def Enabled (s : StartupActivity SecretKey) : Event → Prop
  | .create | .resume _ | .kill => True
  | .storageOk _ => s.storageDialog = true
  | .pin _ => s.pinAsked = true
  | .biometricFailed | .biometricSucceeded => 0 < s.biometricPrompts
  | .thread i _ _ => i < s.threads.length
  | .post post => post ∈ s.posts
  | .task t ending => t ∈ s.tasks ∧ ∀ late, ending ≠ .fails .SUCCESS late
  | .complete status _ | .drop status => status ∈ s.completions
  | .delayedStart _ => 0 < s.delayedStarts
  | .delayedCheck _ => 0 < s.delayedChecks
  | .delayedEncryption payload => payload ∈ s.delayedEncryptions
  | .newPin payload _ => payload ∈ s.pinDialogs
  | .confirmPin payload newPin _ _ _ => (payload, newPin) ∈ s.confirmDialogs
  | .restoreMoves | .restoreDone => s.restores = true

instance (s : StartupActivity SecretKey) : DecidablePred (Enabled s)
  | .create | .resume _ | .kill => inferInstanceAs (Decidable True)
  | .storageOk _ | .pin _ | .restoreMoves | .restoreDone => inferInstanceAs (Decidable (_ = _))
  | .biometricFailed | .biometricSucceeded => inferInstanceAs (Decidable (_ < _))
  | .thread _ _ _ | .delayedStart _ | .delayedCheck _ => inferInstanceAs (Decidable (_ < _))
  | .task t ending => inferInstanceAs (Decidable (t ∈ s.tasks ∧ ∀ _late, ending ≠ _))
  | .post _ => inferInstanceAs (Decidable (_ ∈ s.posts))
  | .complete _ _ | .drop _ => inferInstanceAs (Decidable (_ ∈ s.completions))
  | .delayedEncryption _ => inferInstanceAs (Decidable (_ ∈ s.delayedEncryptions))
  | .newPin _ _ => inferInstanceAs (Decidable (_ ∈ s.pinDialogs))
  | .confirmPin _ _ _ _ _ => inferInstanceAs (Decidable (_ ∈ s.confirmDialogs))

/-- The delayed actions, threads and tasks go with the process, and so does the PIN. -/
def killed (s : StartupActivity SecretKey) : StartupActivity SecretKey :=
  { signIn := { s.signIn with phone := { s.phone with pin := none } }
    eclairDB := s.eclairDB
    networkDB := s.networkDB
    walletOrigin := s.walletOrigin
    channelsRestoreDone := s.channelsRestoreDone
    hasStartedOnce := s.hasStartedOnce
    lastUsedVersion := s.lastUsedVersion
    activity := s.activity + 1
    screens := s.screens }

def runPost (post : StartupPost) (s : StartupActivity SecretKey) : StartupActivity SecretKey :=
  let s := { s with posts := s.posts.erase post }
  match post with
  | .wrongPassword =>
    { s.showError { message := .start_error_wrong_password } with
      delayedStarts := s.delayedStarts + 1 }
  | .error e => s.showError e

section

variable (c : Crypto) (d : SeedDecoders) (k : PinCipher SecretKey) (w : DeterministicWallet Key)
  (testnet : Bool)

/-- The success callback of the prompt. -/
def onBiometricSucceeded (s : StartupActivity SecretKey) : StartupActivity SecretKey :=
  match KeystoreHelper.decryptPin k s.signIn with
  | .ok rawPIN => s.launchStartupTask (d.utf8 rawPIN)
  | .error _ => s.showError { message := .start_error_biometric }

/-- What an event does. -/
def act (s : StartupActivity SecretKey) : Event → StartupActivity SecretKey
  | .create =>
    { s with
      activity := s.activity + 1
      isStartingNode := false
      checkExternalStorageState := true
      error := none
      pickInitWallet := false
      storageDialog := false }
  | .resume env => if s.isStartingNode then s else s.checkup testnet env
  | .storageOk env =>
    checkup testnet env { s with storageDialog := false, checkExternalStorageState := false }
  | .pin pinValue => s.launchStartupTask pinValue
  | .biometricFailed =>
    showPinDialog { s with biometricPrompts := s.biometricPrompts - 1 }
  | .biometricSucceeded =>
    onBiometricSucceeded d k { s with biometricPrompts := s.biometricPrompts - 1 }
  | .thread i env fault =>
    match s.threads[i]? with
    | some t => runThread c d w testnet env fault t { s with threads := s.threads.eraseIdx i }
    | none => s
  | .post post => s.runPost post
  | .task t ending => runTask t ending { s with tasks := s.tasks.erase t }
  | .complete status env =>
    processStartupFinish testnet env status { s with completions := s.completions.erase status }
  | .drop status => { s with completions := s.completions.erase status }
  | .delayedStart env => startNode env { s with delayedStarts := s.delayedStarts - 1 }
  | .delayedCheck env =>
    (checkWalletDatadir env { s with delayedChecks := s.delayedChecks - 1 }).2
  | .delayedEncryption payload =>
    { s with
      delayedEncryptions := s.delayedEncryptions.erase payload
      pinDialogs := payload :: s.pinDialogs }
  | .newPin payload newPin => { s with confirmDialogs := (payload, newPin) :: s.confirmDialogs }
  | .confirmPin payload newPin confirmPin env encryptEnv =>
    s.confirmPin c env encryptEnv payload newPin confirmPin
  | .restoreMoves => { s with eclairDB := some .restored }
  | .restoreDone => { s with channelsRestoreDone := true }
  | .kill => s.killed

/-- One event, if it is possible. -/
def step (s : StartupActivity SecretKey) (event : Event) : Option (StartupActivity SecretKey) :=
  if Enabled s event then some (s.act c d k w testnet event) else none

theorem step_eq_some_iff {s s' : StartupActivity SecretKey} {event : Event} :
    step c d k w testnet s event = some s' ↔
      Enabled s event ∧ s.act c d k w testnet event = s' := by
  unfold step
  split_ifs with h
  · simp [h]
  · simp [h]

end

end StartupActivity

end EclairMobile
