import EclairMobile.Activities.StartupRuns

/-!
# The wallet in memory

The PIN, the hash of the seed, the backup keys and the node are set one after the other, by threads
and tasks that run side by side.  All of them are those of the wallet on the device, and the home
screen is opened on a complete set only.
-/

namespace EclairMobile

open Lib AesCbcWithIntegrity WalletUtils EclairActivity

namespace StartupActivity

variable {SecretKey Key : Type} {c : Crypto} {d : SeedDecoders} {k : PinCipher SecretKey}
  {w : DeterministicWallet Key} {testnet : Bool} {s s' : StartupActivity SecretKey}

/-- What is in memory is none or the wallet's. -/
structure Own (own : OpenedSeed) (a : Option String × AppMemory) : Prop where
  pin : ∀ p ∈ a.1, p = own.password
  appKit : ∀ seed ∈ a.2.appKit, seed = own.seed
  seedHash : ∀ seedHash ∈ a.2.seedHash, seedHash = own.keys.seedHash
  backupKey_v1 : ∀ key ∈ a.2.backupKey_v1, key = own.keys.backupKey_v1
  backupKey_v2 : ∀ key ∈ a.2.backupKey_v2, key = own.keys.backupKey_v2

/-- The seed file is the wallet's, and so is all that was read from it. -/
structure Belongs (content : Bytes) (own : OpenedSeed) (s : StartupActivity SecretKey) : Prop where
  seedFile : fileAt s.phone.datadir SEED_NAME = some content
  memory : Own own (s.phone.pin, s.memory)
  threads : ∀ t ∈ s.threads, ∀ o pc, t.state = .opened o pc → o = own
  tasks : ∀ t ∈ s.tasks, t.seed = own.seed
  delayedEncryptions : s.delayedEncryptions = []
  pinDialogs : s.pinDialogs = []
  confirmDialogs : s.confirmDialogs = []
  screens : ∀ a ∈ s.screens, Own own a.2 ∧ (a.1 = .home → Ready a.2)

section

variable {content : Bytes} {own : OpenedSeed}

theorem Own.empty (own : OpenedSeed) (dbHelper : Bool) : Own own (none, { dbHelper := dbHelper }) :=
  ⟨nofun, nofun, nofun, nofun, nofun⟩

theorem Belongs.quiet (h : Belongs content own s) (hq : Quiet s s') : Belongs content own s' := by
  refine ⟨hq.seedFile.trans h.seedFile, ?_, ?_, ?_, ?_, ?_, ?_, ?_⟩
  · rw [hq.pin, hq.memory]
    exact h.memory
  · intro t ht o pc hstate
    rcases hq.threads t ht with hold | ⟨password, hread⟩
    · exact h.threads t hold o pc hstate
    · rw [hread] at hstate
      cases hstate
  · rw [hq.tasks]
    exact h.tasks
  · -- a seed is encrypted only if there is no seed file
    apply List.eq_nil_iff_forall_not_mem.mpr
    intro payload hmem
    rcases hq.encryptions payload hmem with hold | ⟨-, hnone⟩
    · rw [h.delayedEncryptions] at hold
      exact List.not_mem_nil hold
    · rw [h.seedFile] at hnone
      cases hnone
  · rw [hq.pinDialogs]
    exact h.pinDialogs
  · rw [hq.confirmDialogs]
    exact h.confirmDialogs
  · intro a ha
    rcases hq.screens a ha with hold | ⟨heq, hready⟩
    · exact h.screens a hold
    · refine ⟨?_, hready⟩
      rw [heq]
      exact h.memory

theorem Belongs.setMemory (h : Belongs content own s) {pin : Option String} {memory : AppMemory}
    {tasks : List StartupTask} (hown : Own own (pin, memory))
    (htasks : ∀ t ∈ tasks, t.seed = own.seed) :
    Belongs content own { s.setPin pin with memory := memory, tasks := tasks } :=
  ⟨h.seedFile, hown, h.threads, htasks, h.delayedEncryptions, h.pinDialogs, h.confirmDialogs,
    h.screens⟩

theorem Belongs.clearApp (h : Belongs content own s) : Belongs content own s.clearApp :=
  h.setMemory (Own.empty own _) h.tasks

theorem Belongs.startActivity (h : Belongs content own s) {screen : OpenedScreen}
    (hne : screen ≠ .home) : Belongs content own (s.startActivity screen) :=
  h.quiet (quiet_startActivity fun heq => absurd heq hne)

theorem Belongs.runOpened (h : Belongs content own s) (env : StartupEnv) (activity : ℕ)
    (pc : StartupPc) : Belongs content own (s.runOpened env activity own pc).1 := by
  have hm := h.memory
  cases pc with
  | setPin =>
    refine h.setMemory ⟨?_, hm.appKit, hm.seedHash, hm.backupKey_v1, hm.backupKey_v2⟩ h.tasks
    exact fun p hp => (Option.some.inj hp).symm
  | setSeedHash =>
    refine h.setMemory ⟨hm.pin, hm.appKit, ?_, hm.backupKey_v1, hm.backupKey_v2⟩ h.tasks
    exact fun p hp => (Option.some.inj hp).symm
  | setBackupKey_v1 =>
    refine h.setMemory ⟨hm.pin, hm.appKit, hm.seedHash, ?_, hm.backupKey_v2⟩ h.tasks
    exact fun p hp => (Option.some.inj hp).symm
  | setBackupKey_v2 =>
    refine h.setMemory ⟨hm.pin, hm.appKit, hm.seedHash, hm.backupKey_v1, ?_⟩ h.tasks
    exact fun p hp => (Option.some.inj hp).symm
  | checkRestore =>
    show Belongs content own (if s.shouldRestoreChannelsBackup then _ else _ : _ × _).1
    split
    · exact h.startActivity (by simp)
    · exact h
  | checkAccess =>
    show Belongs content own (if ¬env.hasLocalAccess then _ else _ : _ × _).1
    split
    · exact h.startActivity (by simp)
    · exact h
  | setStarting =>
    show Belongs content own (if activity = s.activity then _ else s)
    split
    · exact h.quiet (.of_view rfl)
    · exact h
  | execute =>
    refine h.setMemory hm ?_
    intro t ht
    rcases List.mem_cons.mp ht with rfl | hold
    · rfl
    · exact h.tasks t hold

theorem Belongs.addThread (h : Belongs content own s) (activity : ℕ) (pc : StartupPc) :
    Belongs content own
      { s with threads := { activity := activity, state := .opened own pc } :: s.threads } := by
  refine ⟨h.seedFile, h.memory, ?_, h.tasks, h.delayedEncryptions, h.pinDialogs, h.confirmDialogs,
    h.screens⟩
  intro t ht o pc' hstate
  rcases List.mem_cons.mp ht with rfl | hold
  · cases hstate
    rfl
  · exact h.threads t hold o pc' hstate

variable (c d w testnet) in
/-- The file opens as this wallet only. -/
def OpensOnly (content : Bytes) (own : OpenedSeed) : Prop :=
  ∀ datadir password o, fileAt datadir SEED_NAME = some content →
    openSeed c d w testnet datadir password = .ok o → o = own

theorem Belongs.runThread (honly : OpensOnly c d w testnet content own)
    (h : Belongs content own s) (env : StartupEnv) (fault : Option Throwable) {t : StartupThread}
    (ht : ∀ o pc, t.state = .opened o pc → o = own) :
    Belongs content own (runThread c d w testnet env fault t s) := by
  rcases runThread_cases c d w testnet env fault t s with
    hq | ⟨password, o, -, hopen, heq⟩ | ⟨o, pc, hstate, heq⟩
  · exact h.clearApp.quiet hq
  · rw [heq]
    obtain rfl : o = own := honly _ _ _ h.seedFile hopen
    exact h.addThread t.activity .setPin
  · rw [heq]
    obtain rfl := ht o pc hstate
    have hrun := h.runOpened env t.activity pc
    generalize s.runOpened env t.activity o pc = r at hrun
    obtain ⟨s₁, next⟩ := r
    cases next with
    | none => exact hrun
    | some pc' => exact hrun.addThread t.activity pc'

theorem Belongs.taskEffect (h : Belongs content own s) {t : StartupTask} (ht : t.seed = own.seed) :
    Belongs content own (taskEffect t s) := by
  have hm := h.memory
  unfold StartupActivity.taskEffect
  split
  · exact h.setMemory ⟨hm.pin, hm.appKit, hm.seedHash, hm.backupKey_v1, hm.backupKey_v2⟩ h.tasks
  · exact ⟨h.seedFile, h.memory, h.threads, h.tasks, h.delayedEncryptions, h.pinDialogs,
      h.confirmDialogs, h.screens⟩
  · refine h.setMemory ⟨hm.pin, ?_, hm.seedHash, hm.backupKey_v1, hm.backupKey_v2⟩ h.tasks
    exact fun seed hseed => (Option.some.inj hseed).symm.trans ht

theorem Belongs.runTask (h : Belongs content own s) {t : StartupTask} (ht : t.seed = own.seed)
    (ending : TaskEnd) : Belongs content own (runTask t ending s) := by
  have heffect := h.taskEffect ht
  have hnext : ∀ pc, Belongs content own
      { StartupActivity.taskEffect t s with
        tasks := { t with pc := pc } :: (StartupActivity.taskEffect t s).tasks } := by
    intro pc
    refine heffect.setMemory heffect.memory ?_
    intro t' ht'
    rcases List.mem_cons.mp ht' with rfl | hold
    · exact ht
    · exact heffect.tasks t' hold
  unfold StartupActivity.runTask
  split
  · dsimp only
    split
    · exact hnext .setup
    · exact hnext .bootstrap
    · exact heffect.quiet (.of_view rfl)
  · dsimp only
    split
    · exact heffect.quiet (.of_view rfl)
    · exact h.quiet (.of_view rfl)

/-- **The memory stays the wallet's with every event.** -/
theorem Belongs.act (honly : OpensOnly c d w testnet content own) (h : Belongs content own s)
    {event : Event} (hen : Enabled s event) :
    Belongs content own (s.act c d k w testnet event) := by
  cases event with
  | create | resume | storageOk | pin | biometricFailed | biometricSucceeded | post | drop
  | delayedStart | delayedCheck => exact h.quiet (quiet_act c d k w testnet s rfl)
  | thread i env fault =>
    rcases act_thread c d k w testnet s i env fault with heq | ⟨t, ht, heq⟩
    · rw [heq]
      exact h
    · rw [heq]
      exact (h.quiet (quiet_eraseIdx s i)).runThread honly env fault (h.threads t ht)
  | task t ending =>
    have h0 : Belongs content own { s with tasks := s.tasks.erase t } :=
      h.setMemory h.memory fun t' ht' => h.tasks t' (List.mem_of_mem_erase ht')
    exact h0.runTask (h.tasks t hen.1) ending
  | complete status env =>
    have h0 : Belongs content own { s with completions := s.completions.erase status } :=
      h.quiet (.of_view rfl)
    rcases quiet_processStartupFinish testnet env status
      { s with completions := s.completions.erase status } with hq | hq
    · exact h0.quiet hq
    · exact h0.clearApp.quiet hq
  | delayedEncryption payload =>
    have hmem : payload ∈ s.delayedEncryptions := hen
    rw [h.delayedEncryptions] at hmem
    exact absurd hmem List.not_mem_nil
  | newPin payload newPin =>
    have hmem : payload ∈ s.pinDialogs := hen
    rw [h.pinDialogs] at hmem
    exact absurd hmem List.not_mem_nil
  | confirmPin payload newPin confirmPin env encryptEnv =>
    have hmem : (payload, newPin) ∈ s.confirmDialogs := hen
    rw [h.confirmDialogs] at hmem
    exact absurd hmem List.not_mem_nil
  | restoreMoves | restoreDone =>
    exact ⟨h.seedFile, h.memory, h.threads, h.tasks, h.delayedEncryptions, h.pinDialogs,
      h.confirmDialogs, h.screens⟩
  | kill => exact ⟨h.seedFile, Own.empty own _, nofun, nofun, rfl, rfl, rfl, h.screens⟩

/-- A phone with a seed file, and a process that did nothing yet. -/
structure Locked (content : Bytes) (s : StartupActivity SecretKey) : Prop where
  seedFile : fileAt s.phone.datadir SEED_NAME = some content
  pin : s.phone.pin = none
  memory : s.memory = {}
  threads : s.threads = []
  tasks : s.tasks = []
  delayedEncryptions : s.delayedEncryptions = []
  pinDialogs : s.pinDialogs = []
  confirmDialogs : s.confirmDialogs = []
  screens : s.screens = []

theorem Locked.belongs (h : Locked content s) (own : OpenedSeed) : Belongs content own s := by
  refine ⟨h.seedFile, ?_, ?_, ?_, h.delayedEncryptions, h.pinDialogs, h.confirmDialogs, ?_⟩
  · rw [h.pin, h.memory]
    exact Own.empty own _
  · rw [h.threads]
    exact nofun
  · rw [h.tasks]
    exact nofun
  · rw [h.screens]
    exact nofun

theorem openSeed_of_decodes {datadir : Datadir} {password : String} {pair : EncryptedSeed × Bytes}
    {seed : Bytes} (hread : readSeedAndDecrypt c datadir password = .ok pair)
    (hdecode : decodeSeed d pair.1 pair.2 = .ok seed) :
    openSeed c d w testnet datadir password =
      .ok { password := password, seed := seed, keys := w.nodeKeys testnet seed } := by
  unfold openSeed
  rw [hread]
  show (decodeSeed d pair.1 pair.2 >>= fun seed => _) = _
  rw [hdecode]
  rfl

/-- Where the MAC is ideal, a file opens with one PIN only. -/
theorem opensOnly {seed : EncryptedSeed} (hread : EncryptedSeed.read content = .ok seed)
    (hopens : openSeed c d w testnet (datadirWith content) own.password = .ok own)
    (hideal : ∀ password, Unforged c (fun pin => generateKeyFromPassword c pin seed.salt)
      own.password seed.civ password seed.civ) : OpensOnly c d w testnet content own := by
  intro datadir password o hfile h
  have hhold : HoldsSeed (some content) datadir := by
    cases datadir with
    | none => cases hfile
    | some files => exact ⟨files, rfl, hfile⟩
  have hhold' : HoldsSeed (some content) (datadirWith content) := by
    refine ⟨_, rfl, ?_⟩
    simp
  unfold openSeed at h hopens
  rw [readSeedAndDecrypt_of_holdsSeed hhold, hread] at h
  rw [readSeedAndDecrypt_of_holdsSeed hhold', hread] at hopens
  have hpassword : password = own.password := by
    obtain ⟨pair, hpair, -⟩ := bind_eq_ok_iff.mp h
    obtain ⟨seed', hseed', hpair⟩ := bind_eq_ok_iff.mp hpair
    obtain rfl := Except.ok.inj hseed'
    obtain ⟨blob, hd, -⟩ := bind_eq_ok_iff.mp hpair
    exact (hideal password (authentic_of_decrypt hd)).1
  rw [hpassword, hopens] at h
  exact (Except.ok.inj h).symm

end

/-! ### A run to the home screen -/

namespace KnownRun

open Known

theorem opens_own : openSeed crypto decoders wallet false (datadirWith seedFile) own.password =
    .ok own := by
  have hread : readSeedAndDecrypt crypto (datadirWith seedFile) pin = .ok (knownSeed, blob) := by
    decide +kernel
  have hdecode : decodeSeed decoders knownSeed blob = .ok seed := by decide +kernel
  exact openSeed_of_decodes hread hdecode

/-- Another PIN gives other keys. -/
theorem unforged_own (password : String) :
    Unforged crypto (fun pin => generateKeyFromPassword crypto pin knownSeed.salt) own.password
      knownSeed.civ password knownSeed.civ := by
  intro h
  by_cases hpin : password = pin
  · exact ⟨hpin, rfl⟩
  · have hother : ((password, salt.1) == (pin, salt.1)) = false := by
      simp [hpin]
    have hlookup : crypto.pbkdf2 password salt = List.replicate 48 0 := by
      simp only [crypto, answers, Crypto.ofKnown, List.lookup_cons, hother]
      rfl
    have hkeys : generateKeyFromPassword crypto password salt =
        ⟨List.replicate 16 0, List.replicate 32 0⟩ := by
      unfold generateKeyFromPassword
      rw [hlookup]
      rfl
    have hauth : Authentic crypto knownSeed.civ ⟨List.replicate 16 0, List.replicate 32 0⟩ :=
      hkeys ▸ h
    exact absurd hauth (by decide +kernel)

end KnownRun

end StartupActivity

end EclairMobile
