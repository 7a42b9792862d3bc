import EclairMobile.Activities.SecuritySettingsActivity
import EclairMobile.Activities.StartupActivity

/-!
# Runs of the start

Most of what the screen does is quiet: it may start threads that read the seed file, display things
and delete an unencrypted seed that is encrypted already.  What the other events do is said for each
of them.  Three properties of all runs follow: the seed is never lost, the memory never holds data
of another wallet, and no database of channels is created while a restore is due.
-/

namespace EclairMobile

open Lib AesCbcWithIntegrity WalletUtils EclairActivity

namespace StartupActivity

variable {SecretKey Key : Type}

/-! ### Quiet steps -/

/-- Everything that `isAppReady` asks for is set. -/
def Ready (a : Option String × AppMemory) : Prop :=
  a.2.appKit.isSome ∧ a.2.dbHelper = true ∧ a.1.isSome ∧ a.2.seedHash.isSome ∧
    a.2.backupKey_v2.isSome

/-- What a quiet step leaves alone, and what it may add. -/
structure Quiet (s s' : StartupActivity SecretKey) : Prop where
  pin : s'.phone.pin = s.phone.pin
  memory : s'.memory = s.memory
  tasks : s'.tasks = s.tasks
  pinDialogs : s'.pinDialogs = s.pinDialogs
  confirmDialogs : s'.confirmDialogs = s.confirmDialogs
  walletOrigin : s'.walletOrigin = s.walletOrigin
  channelsRestoreDone : s'.channelsRestoreDone = s.channelsRestoreDone
  eclairDB : s'.eclairDB = s.eclairDB ∨ s'.eclairDB = some .found
  seedFile : fileAt s'.phone.datadir SEED_NAME = fileAt s.phone.datadir SEED_NAME
  unencrypted : fileAt s'.phone.datadir UNENCRYPTED_SEED_NAME =
      fileAt s.phone.datadir UNENCRYPTED_SEED_NAME ∨
    fileAt s'.phone.datadir UNENCRYPTED_SEED_NAME = none ∧
      fileAt s.phone.datadir SEED_NAME ≠ none
  threads : ∀ t ∈ s'.threads, t ∈ s.threads ∨ ∃ password, t.state = .readSeed password
  encryptions : ∀ u ∈ s'.delayedEncryptions, u ∈ s.delayedEncryptions ∨
    fileAt s.phone.datadir UNENCRYPTED_SEED_NAME = some u ∧
      fileAt s.phone.datadir SEED_NAME = none
  screens : ∀ a ∈ s'.screens, a ∈ s.screens ∨
    a.2 = (s.phone.pin, s.memory) ∧ (a.1 = .home → Ready a.2)

section Quiet

variable {s s' s₁ s₂ s₃ : StartupActivity SecretKey} {env : StartupEnv}

/-- What the three properties look at. -/
def view (s : StartupActivity SecretKey) :=
  (s.signIn.phone, s.memory, s.tasks, s.pinDialogs, s.confirmDialogs, s.walletOrigin,
    s.channelsRestoreDone, s.eclairDB, s.threads, s.delayedEncryptions, s.screens)

theorem Quiet.of_view (h : s'.view = s.view) : Quiet s s' := by
  simp only [view, Prod.mk.injEq] at h
  obtain ⟨h₁, h₂, h₃, h₄, h₅, h₆, h₇, h₈, h₉, h₁₀, h₁₁⟩ := h
  have hphone : s'.phone = s.phone := h₁
  refine ⟨?_, h₂, h₃, h₄, h₅, h₆, h₇, .inl h₈, ?_, ?_, ?_, ?_, ?_⟩
  · rw [hphone]
  · rw [hphone]
  · rw [hphone]
    exact .inl rfl
  · rw [h₉]
    exact fun t ht => .inl ht
  · rw [h₁₀]
    exact fun u hu => .inl hu
  · rw [h₁₁]
    exact fun a ha => .inl ha

theorem Quiet.refl (s : StartupActivity SecretKey) : Quiet s s := .of_view rfl

theorem Quiet.trans (h₁ : Quiet s₁ s₂) (h₂ : Quiet s₂ s₃) : Quiet s₁ s₃ := by
  refine ⟨h₂.pin.trans h₁.pin, h₂.memory.trans h₁.memory, h₂.tasks.trans h₁.tasks,
    h₂.pinDialogs.trans h₁.pinDialogs, h₂.confirmDialogs.trans h₁.confirmDialogs,
    h₂.walletOrigin.trans h₁.walletOrigin, h₂.channelsRestoreDone.trans h₁.channelsRestoreDone,
    ?_, h₂.seedFile.trans h₁.seedFile, ?_, ?_, ?_, ?_⟩
  · rcases h₂.eclairDB with h | h
    · rw [h]
      exact h₁.eclairDB
    · exact .inr h
  · have hfile := h₁.seedFile
    rcases h₂.unencrypted with h | ⟨h, hne⟩
    · rw [h]
      exact h₁.unencrypted
    · exact .inr ⟨h, hfile ▸ hne⟩
  · intro t ht
    rcases h₂.threads t ht with hold | hnew
    · exact h₁.threads t hold
    · exact .inr hnew
  · intro u hu
    rcases h₂.encryptions u hu with hold | ⟨hunenc, hnone⟩
    · exact h₁.encryptions u hold
    · rw [h₁.seedFile] at hnone
      rcases h₁.unencrypted with h | ⟨h, hne⟩
      · exact .inr ⟨h ▸ hunenc, hnone⟩
      · exact absurd hnone hne
  · intro a ha
    rcases h₂.screens a ha with hold | hnew
    · exact h₁.screens a hold
    · rw [h₁.pin, h₁.memory] at hnew
      exact .inr hnew

theorem Quiet.then (h₁ : Quiet s₁ s₂) (h : s₃.view = s₂.view) : Quiet s₁ s₃ := h₁.trans (.of_view h)

theorem quiet_deleteFile {name : String} (hseed : SEED_NAME ≠ name)
    (hunenc : UNENCRYPTED_SEED_NAME ≠ name ∨ fileAt s.phone.datadir SEED_NAME ≠ none) :
    Quiet s (s.deleteFile name) := by
  have hat : ∀ other, other ≠ name → fileAt (s.deleteFile name).phone.datadir other =
      fileAt s.phone.datadir other := by
    intro other hne
    show fileAt (s.phone.datadir.map fun files => Function.update files name none) other = _
    cases s.phone.datadir with
    | none => rfl
    | some files => exact Function.update_of_ne hne _ _
  refine ⟨rfl, rfl, rfl, rfl, rfl, rfl, rfl, .inl rfl, hat _ hseed, ?_, ?_, ?_, ?_⟩
  · by_cases hne : UNENCRYPTED_SEED_NAME = name
    · refine .inr ⟨?_, hunenc.resolve_left (not_not.mpr hne)⟩
      show fileAt (s.phone.datadir.map fun files => Function.update files name none) _ = none
      rw [hne]
      cases s.phone.datadir with
      | none => rfl
      | some files => exact Function.update_self ..
    · exact .inl (hat _ hne)
  · exact fun t ht => .inl ht
  · exact fun u hu => .inl hu
  · exact fun a ha => .inl ha

theorem quiet_migrateTestnetSqlite (env : StartupEnv) (s : StartupActivity SecretKey) :
    Quiet s (s.migrateTestnetSqlite env) := by
  unfold migrateTestnetSqlite
  split
  · split
    · have h : Quiet s (s.deleteFile ECLAIR_DB_FILE) :=
        quiet_deleteFile (by decide) (.inl (by decide))
      exact ⟨h.pin, h.memory, h.tasks, h.pinDialogs, h.confirmDialogs, h.walletOrigin,
        h.channelsRestoreDone, .inr rfl, h.seedFile, h.unencrypted, h.threads, h.encryptions,
        h.screens⟩
    · exact .of_view rfl
  · exact .refl s

theorem quiet_deleteNetworkDB (h : s.deleteNetworkDB env = some s') : Quiet s s' := by
  unfold deleteNetworkDB at h
  split at h
  · cases h
  · obtain rfl := Option.some.inj h
    exact .of_view rfl

theorem quiet_preStartMigration (testnet : Bool) (env : StartupEnv)
    (s : StartupActivity SecretKey) : Quiet s (s.preStartMigration testnet env).2 := by
  unfold preStartMigration
  split
  · have hmigrated : Quiet s
        (if s.lastUsedVersion ≤ 15 ∧ testnet then s.migrateTestnetSqlite env else s) := by
      split
      · exact quiet_migrateTestnetSqlite env s
      · exact .refl s
    dsimp only
    generalize (if s.lastUsedVersion ≤ 15 ∧ testnet then s.migrateTestnetSqlite env else s) = s₁
      at hmigrated
    split
    · split
      · next s₂ h₂ => exact hmigrated.trans (quiet_deleteNetworkDB h₂)
      · exact hmigrated
    · exact hmigrated
  · exact .refl s

theorem quiet_checkWalletDatadir (env : StartupEnv) (s : StartupActivity SecretKey) :
    Quiet s (s.checkWalletDatadir env).2 := by
  unfold checkWalletDatadir
  split
  · exact .of_view rfl
  · next files hfiles =>
    have hat : ∀ name, fileAt s.phone.datadir name = files name := by
      intro name
      rw [hfiles]
      rfl
    split
    · next unencryptedSeed hu he =>
      split
      · refine ⟨rfl, rfl, rfl, rfl, rfl, rfl, rfl, .inl rfl, rfl, .inl rfl, fun t ht => .inl ht, ?_,
          fun a ha => .inl ha⟩
        intro u hmem
        rcases List.mem_cons.mp hmem with rfl | hold
        · rw [hat, hat]
          exact .inr ⟨hu, he⟩
        · exact .inl hold
      · exact .refl s
    · next he =>
      split
      · refine quiet_deleteFile (by decide) (.inr ?_)
        rw [hat, he]
        exact Option.some_ne_none _
      · exact .refl s
    · exact .refl s
    · exact .of_view rfl

theorem quiet_launchStartupTask (password : String) (s : StartupActivity SecretKey) :
    Quiet s (s.launchStartupTask password) := by
  refine ⟨rfl, rfl, rfl, rfl, rfl, rfl, rfl, .inl rfl, rfl, .inl rfl, ?_, fun u hu => .inl hu,
    fun a ha => .inl ha⟩
  intro t ht
  rcases List.mem_cons.mp ht with rfl | hold
  · exact .inr ⟨password, rfl⟩
  · exact .inl hold

theorem quiet_startActivity {screen : OpenedScreen} (h : screen = .home → s.isAppReady) :
    Quiet s (s.startActivity screen) := by
  refine ⟨rfl, rfl, rfl, rfl, rfl, rfl, rfl, .inl rfl, rfl, .inl rfl, fun t ht => .inl ht,
    fun u hu => .inl hu, ?_⟩
  intro a ha
  rcases List.mem_append.mp ha with hold | hnew
  · exact .inl hold
  · rw [List.mem_singleton.mp hnew]
    exact .inr ⟨rfl, h⟩

theorem quiet_finishAndGoToHome (h : s.isAppReady) : Quiet s s.finishAndGoToHome := by
  have hready : isAppReady (afterStartupMigration { s with hasStartedOnce := true }) := h
  have hquiet : Quiet s (afterStartupMigration { s with hasStartedOnce := true }) := .of_view rfl
  exact hquiet.trans (quiet_startActivity fun _ => hready)

theorem quiet_startNode (env : StartupEnv) (s : StartupActivity SecretKey) :
    Quiet s (s.startNode env) := by
  have hclear : Quiet s { s with error := none, pickInitWallet := false } := .of_view rfl
  unfold startNode
  dsimp only
  split
  · split
    · exact .of_view rfl
    · split
      · exact .of_view rfl
      · split
        · split
          · exact .of_view rfl
          · exact .of_view rfl
        · exact hclear.trans (quiet_launchStartupTask _ _)
  · next hready => exact hclear.trans (quiet_finishAndGoToHome (not_not.mp hready))

theorem quiet_checkup (testnet : Bool) (env : StartupEnv) (s : StartupActivity SecretKey) :
    Quiet s (s.checkup testnet env) := by
  have hmigrated := quiet_preStartMigration testnet env s
  unfold checkup
  split
  · next s₁ h₁ =>
    rw [h₁] at hmigrated
    exact hmigrated
  · next s₁ h₁ =>
    rw [h₁] at hmigrated
    have hchecked := quiet_checkWalletDatadir env s₁
    split
    · next s₂ h₂ =>
      rw [h₂] at hchecked
      exact hmigrated.trans hchecked
    · next s₂ h₂ =>
      rw [h₂] at hchecked
      have hquiet := hmigrated.trans hchecked
      split
      · exact hquiet.then rfl
      · exact hquiet.trans (quiet_startNode env s₂)

theorem quiet_runPost (post : StartupPost) (s : StartupActivity SecretKey) :
    Quiet s (s.runPost post) := by
  cases post with
  | wrongPassword => exact .of_view rfl
  | error e => exact .of_view rfl

theorem quiet_callback (env : StartupEnv) (s : StartupActivity SecretKey) (shown : Shown) :
    Quiet s (callback env s shown) := by
  cases shown with
  | onEncryptSeedFailure message => exact .of_view rfl
  | onEncryptSeedSuccess => exact quiet_checkWalletDatadir env s
  | toast message => exact .refl s

theorem quiet_callbacks (env : StartupEnv) (s : StartupActivity SecretKey) (shown : List Shown) :
    Quiet s (shown.foldl (callback env) s) := by
  induction shown generalizing s with
  | nil => exact .refl s
  | cons shown rest ih => exact (quiet_callback env s shown).trans (ih _)

end Quiet

/-! ### What the events do -/

section Events

variable (c : Crypto) (d : SeedDecoders) (k : PinCipher SecretKey) (w : DeterministicWallet Key)
  (testnet : Bool)

/-- The events that only display things, read files and start threads. -/
def Event.isQuiet : Event → Bool
  | .create | .resume _ | .storageOk _ | .pin _ | .biometricFailed | .biometricSucceeded => true
  | .post _ | .drop _ | .delayedStart _ | .delayedCheck _ => true
  | _ => false

theorem quiet_act (s : StartupActivity SecretKey) {event : Event} (h : event.isQuiet = true) :
    Quiet s (s.act c d k w testnet event) := by
  cases event with
  | create | biometricFailed | drop => exact .of_view rfl
  | resume env =>
    show Quiet s (if s.isStartingNode then s else s.checkup testnet env)
    split
    · exact .refl s
    · exact quiet_checkup testnet env s
  | storageOk env =>
    have h0 : Quiet s { s with storageDialog := false, checkExternalStorageState := false } :=
      .of_view rfl
    exact h0.trans (quiet_checkup testnet env _)
  | pin pinValue => exact quiet_launchStartupTask pinValue s
  | biometricSucceeded =>
    have h0 : Quiet s { s with biometricPrompts := s.biometricPrompts - 1 } := .of_view rfl
    refine h0.trans ?_
    show Quiet _ (onBiometricSucceeded d k _)
    unfold onBiometricSucceeded
    split
    · exact quiet_launchStartupTask _ _
    · exact .of_view rfl
  | post post => exact quiet_runPost post s
  | delayedStart env =>
    have h0 : Quiet s { s with delayedStarts := s.delayedStarts - 1 } := .of_view rfl
    exact h0.trans (quiet_startNode env _)
  | delayedCheck env =>
    have h0 : Quiet s { s with delayedChecks := s.delayedChecks - 1 } := .of_view rfl
    exact h0.trans (quiet_checkWalletDatadir env _)
  | thread | task | complete | delayedEncryption | newPin | confirmPin | restoreMoves
  | restoreDone | kill => cases h

/-- The end of the task clears the app if it failed. -/
theorem quiet_processStartupFinish (env : StartupEnv) (status : StartupStatus)
    (s : StartupActivity SecretKey) :
    Quiet s (s.processStartupFinish testnet env status) ∨
      Quiet s.clearApp (s.processStartupFinish testnet env status) := by
  unfold processStartupFinish
  cases status with
  | SUCCESS =>
    refine .inl ?_
    dsimp only
    split
    · next hready => exact (quiet_finishAndGoToHome hready).then rfl
    · exact .of_view rfl
  | NETWORK_ERROR | TIMEOUT_ERROR | GENERIC_ERROR => exact .inr (.of_view rfl)
  | NETWORK_DB_ERROR =>
    dsimp only
    split
    · exact .inr (.of_view rfl)
    · next s₁ h₁ =>
      exact .inl (((quiet_deleteNetworkDB h₁).trans (quiet_checkup testnet env s₁)).then rfl)

theorem quiet_threadError (activity : ℕ) (t : Throwable) (s : StartupActivity SecretKey) :
    Quiet s.clearApp (s.threadError activity t) := by
  unfold threadError
  dsimp only
  have h0 : Quiet s.clearApp (if activity = s.clearApp.activity then
      { s.clearApp with isStartingNode := false } else s.clearApp) := by
    split
    · exact .of_view rfl
    · exact .refl _
  cases t with
  | generalSecurityException | ioException | runtimeException | securityException
  | externalStorageUnavailableException | error => exact h0.then rfl

/-- A step of a thread fails, opens the seed file, or goes on with the seed that was opened. -/
theorem runThread_cases (env : StartupEnv) (fault : Option Throwable) (t : StartupThread)
    (s : StartupActivity SecretKey) :
    Quiet s.clearApp (runThread c d w testnet env fault t s) ∨
      (∃ password o, t.state = .readSeed password ∧
        openSeed c d w testnet s.phone.datadir password = .ok o ∧
        runThread c d w testnet env fault t s =
          { s with threads := { t with state := .opened o .setPin } :: s.threads }) ∨
      ∃ o pc, t.state = .opened o pc ∧
        runThread c d w testnet env fault t s =
          proceed t o (s.runOpened env t.activity o pc) := by
  unfold runThread
  cases fault with
  | some e => exact .inl (quiet_threadError t.activity e s)
  | none =>
    cases ht : t.state with
    | readSeed password =>
      dsimp only
      split
      · next o ho => exact .inr (.inl ⟨password, o, rfl, ho, rfl⟩)
      · next e _ => exact .inl (quiet_threadError t.activity e s)
    | opened o pc => exact .inr (.inr ⟨o, pc, rfl, rfl⟩)

theorem quiet_eraseIdx (s : StartupActivity SecretKey) (i : ℕ) :
    Quiet s { s with threads := s.threads.eraseIdx i } := by
  refine ⟨rfl, rfl, rfl, rfl, rfl, rfl, rfl, .inl rfl, rfl, .inl rfl, ?_, fun u hu => .inl hu,
    fun a ha => .inl ha⟩
  exact fun t ht => .inl (List.eraseIdx_sublist _ _ |>.subset ht)

theorem act_thread (s : StartupActivity SecretKey) (i : ℕ) (env : StartupEnv)
    (fault : Option Throwable) :
    s.act c d k w testnet (.thread i env fault) = s ∨
      ∃ t ∈ s.threads, s.act c d k w testnet (.thread i env fault) =
        runThread c d w testnet env fault t { s with threads := s.threads.eraseIdx i } := by
  unfold act
  dsimp only
  rcases ht : s.threads[i]? with - | t
  · exact .inl rfl
  · exact .inr ⟨t, List.mem_of_getElem? ht, rfl⟩

end Events

/-! ### A run to the home screen -/

namespace KnownRun

open Known

def walletBase : String := "m/47'/0'"

/-- The keys below the seed; a key is known by its path. -/
def wallet : DeterministicWallet (List String) where
  generate _ := []
  derivePrivateKey key path := key ++ [path]
  secretkeybytes key :=
    if key = [walletBase, "m/49'"] then
      ⟨[100, 190, 195, 154, 13, 119, 188, 9, 240, 160, 150, 240, 130, 104, 12, 194, 244, 190, 158,
        60, 140, 110, 179, 161, 210, 109, 134, 49, 15, 178, 169, 156], by decide⟩
    else
      ⟨[91, 197, 241, 18, 65, 25, 147, 229, 105, 161, 91, 116, 91, 43, 171, 31, 14, 246, 123, 84,
        182, 245, 63, 76, 131, 63, 60, 90, 36, 157, 148, 65], by decide⟩
  hash160 _ := "b57945546de1bdda1f5236ac97e7dfa02c447661"
  nodeKeyBasePath := walletBase

def own : OpenedSeed := { password := pin, seed := seed, keys := wallet.nodeKeys false seed }

def knownSeed : EncryptedSeed := ⟨⟨2, seedCipher, iv, seedMac⟩, salt⟩

def env : StartupEnv := {}

/-- The thread runs to the task, and the node starts. -/
def boot : List Event :=
  List.replicate 9 (.thread 0 env none) ++
    [.task ⟨seed, .init⟩ .goesOn, .task ⟨seed, .setup⟩ .goesOn, .task ⟨seed, .bootstrap⟩ .goesOn,
      .complete .SUCCESS env]

def locked : StartupActivity Bytes where
  signIn := { phone := { datadir := datadirWith seedFile, pin := none, useBiometrics := false,
                         keyForPin := false } }
  walletOrigin := some WALLET_ORIGIN_RESTORED_FROM_SEED

theorem run_locked : (run (step crypto decoders SecuritySettingsActivity.Enrolled.pinCipher wallet
      false) locked ([.resume env, .pin pin] ++ List.replicate 6 (.thread 0 env none) ++
        [.restoreDone, .resume env] ++ boot)).map
      (fun s => (s.screens.map Prod.fst, s.eclairDB, s.memory.appKit, s.phone.pin)) =
        some ([.restoreChannels, .home], some .created, some seed, some pin) := by
  decide +kernel

end KnownRun

end StartupActivity

end EclairMobile
