import EclairMobile.Activities.StartupRuns

/-!
# The seed of an old version

Old versions kept the seed in the clear.  It is encrypted at the start, under a PIN that is asked
for twice, and the old file is deleted only when the encrypted one is there.
-/

namespace EclairMobile

open Lib AesCbcWithIntegrity WalletUtils EclairActivity

namespace StartupActivity

variable {SecretKey Key : Type} {c : Crypto} {d : SeedDecoders} {k : PinCipher SecretKey}
  {w : DeterministicWallet Key} {testnet : Bool} {s s' : StartupActivity SecretKey}

/-- The seed is in its file, or in the encrypted one under a complete PIN. -/
def SeedThere (c : Crypto) (seed : Bytes) (datadir : Datadir) : Prop :=
  fileAt datadir UNENCRYPTED_SEED_NAME = some seed ∧ fileAt datadir SEED_NAME = none ∨
    (∀ u ∈ fileAt datadir UNENCRYPTED_SEED_NAME, u = seed) ∧
      ∃ pin, pin.length = PIN_LENGTH ∧
        Holds c seed EncryptedSeed.SEED_FILE_VERSION_1 pin datadir

/-- The seed is there, and only the seed is on its way to the encrypted file. -/
structure KeepsSeed (c : Crypto) (seed : Bytes) (s : StartupActivity SecretKey) : Prop where
  there : SeedThere c seed s.phone.datadir
  encryptions : ∀ payload ∈ s.delayedEncryptions, payload = seed
  pinDialogs : ∀ payload ∈ s.pinDialogs, payload = seed
  confirmDialogs : ∀ a ∈ s.confirmDialogs, a.1 = seed

section

variable {seed : Bytes}

theorem SeedThere.unencrypted {datadir : Datadir} (h : SeedThere c seed datadir) :
    ∀ u ∈ fileAt datadir UNENCRYPTED_SEED_NAME, u = seed := by
  rcases h with ⟨hu, -⟩ | ⟨hu, -⟩
  · rw [hu]
    exact fun u hmem => (Option.some.inj hmem).symm
  · exact hu

theorem KeepsSeed.quiet (h : KeepsSeed c seed s) (hq : Quiet s s') : KeepsSeed c seed s' := by
  refine ⟨?_, ?_, ?_, ?_⟩
  · rcases hq.unencrypted with heq | ⟨hnone, hne⟩
    · unfold SeedThere
      rw [heq, hq.seedFile]
      refine h.there.imp_right fun ⟨hu, pin, hpin, hholds⟩ => ?_
      exact ⟨hu, pin, hpin, hholds.congr hq.seedFile⟩
    · rcases h.there with ⟨-, hfile⟩ | ⟨-, pin, hpin, hholds⟩
      · exact absurd hfile hne
      · refine .inr ⟨?_, pin, hpin, hholds.congr hq.seedFile⟩
        rw [hnone]
        exact fun u hmem => absurd hmem (by simp)
  · intro payload hmem
    rcases hq.encryptions payload hmem with hold | ⟨hunenc, -⟩
    · exact h.encryptions payload hold
    · exact h.there.unencrypted payload hunenc
  · rw [hq.pinDialogs]
    exact h.pinDialogs
  · rw [hq.confirmDialogs]
    exact h.confirmDialogs

theorem KeepsSeed.clearApp (h : KeepsSeed c seed s) : KeepsSeed c seed s.clearApp :=
  ⟨h.there, h.encryptions, h.pinDialogs, h.confirmDialogs⟩

theorem KeepsSeed.proceed (h : KeepsSeed c seed s) (t : StartupThread) (o : OpenedSeed)
    (env : StartupEnv) (pc : StartupPc) :
    KeepsSeed c seed (proceed t o (s.runOpened env t.activity o pc)) := by
  have h0 : KeepsSeed c seed (s.setPin (some o.password)) :=
    ⟨h.there, h.encryptions, h.pinDialogs, h.confirmDialogs⟩
  cases pc with
  | setPin => exact ⟨h0.there, h0.encryptions, h0.pinDialogs, h0.confirmDialogs⟩
  | setSeedHash | setBackupKey_v1 | setBackupKey_v2 | execute =>
    exact ⟨h.there, h.encryptions, h.pinDialogs, h.confirmDialogs⟩
  | checkRestore | checkAccess | setStarting =>
    show KeepsSeed c seed (StartupActivity.proceed t o _)
    unfold runOpened
    dsimp only
    split
    · exact ⟨h.there, h.encryptions, h.pinDialogs, h.confirmDialogs⟩
    · exact ⟨h.there, h.encryptions, h.pinDialogs, h.confirmDialogs⟩

theorem KeepsSeed.runThread (h : KeepsSeed c seed s) (env : StartupEnv) (fault : Option Throwable)
    (t : StartupThread) : KeepsSeed c seed (runThread c d w testnet env fault t s) := by
  rcases runThread_cases c d w testnet env fault t s with
    hq | ⟨password, o, -, -, heq⟩ | ⟨o, pc, -, heq⟩
  · exact h.clearApp.quiet hq
  · rw [heq]
    exact ⟨h.there, h.encryptions, h.pinDialogs, h.confirmDialogs⟩
  · rw [heq]
    exact h.proceed t o env pc

theorem KeepsSeed.taskEffect (h : KeepsSeed c seed s) (t : StartupTask) :
    KeepsSeed c seed (taskEffect t s) := by
  unfold StartupActivity.taskEffect
  split
  · exact ⟨h.there, h.encryptions, h.pinDialogs, h.confirmDialogs⟩
  · exact ⟨h.there, h.encryptions, h.pinDialogs, h.confirmDialogs⟩
  · exact ⟨h.there, h.encryptions, h.pinDialogs, h.confirmDialogs⟩

/-- What is encrypted is the seed. -/
theorem KeepsSeed.confirmPin (h : KeepsSeed c seed s) {payload : Bytes} {newPin : String}
    (hmem : (payload, newPin) ∈ s.confirmDialogs) (env : StartupEnv) (encryptEnv : EncryptEnv)
    (confirmPin : String) :
    KeepsSeed c seed (s.confirmPin c env encryptEnv payload newPin confirmPin) := by
  obtain rfl : payload = seed := h.confirmDialogs _ hmem
  have h0 : KeepsSeed c payload
      (s.setPhone (encrypted c encryptEnv payload newPin confirmPin s.phone)) := by
    refine ⟨?_, h.encryptions, h.pinDialogs, h.confirmDialogs⟩
    have hcases : Encrypted c payload EncryptedSeed.SEED_FILE_VERSION_1 (some newPin) confirmPin
        { s.phone with shown := [] } (encrypted c encryptEnv payload newPin confirmPin s.phone) :=
      exec_encryptWallet_cases
    cases hcases with
    | failed hkept _ =>
      have hunenc := hkept UNENCRYPTED_SEED_NAME (by decide)
      have hseed := hkept.seedFile
      unfold SeedThere
      show fileAt (encrypted c encryptEnv payload newPin confirmPin s.phone).datadir _ = _ ∧
        fileAt (encrypted c encryptEnv payload newPin confirmPin s.phone).datadir _ = _ ∨ _
      rw [hunenc, hseed]
      refine h.there.imp_right fun ⟨hu, pin, hpin, hholds⟩ => ⟨?_, pin, hpin, hholds.congr hseed⟩
      intro u hmem'
      exact hu u (hunenc ▸ hmem')
    | written haccepted hrewritten =>
      refine .inr ⟨?_, confirmPin, ?_, hrewritten.holds⟩
      · intro u hmem'
        have hunenc := hrewritten.others UNENCRYPTED_SEED_NAME (by decide) (by decide)
        exact h.there.unencrypted u (hunenc ▸ hmem')
      · have hpin : newPin = confirmPin := Option.some.inj haccepted.2
        rw [← hpin]
        exact Option.some.inj haccepted.1
  exact h0.quiet (quiet_callbacks env _ _)

/-- **The seed survives every event.** -/
theorem KeepsSeed.act (h : KeepsSeed c seed s) {event : Event} (hen : Enabled s event) :
    KeepsSeed c seed (s.act c d k w testnet event) := by
  cases event with
  | create | resume | storageOk | pin | biometricFailed | biometricSucceeded | post | drop
  | delayedStart | delayedCheck => exact h.quiet (quiet_act c d k w testnet s rfl)
  | thread i env fault =>
    rcases act_thread c d k w testnet s i env fault with heq | ⟨t, -, heq⟩
    · rw [heq]
      exact h
    · rw [heq]
      exact (h.quiet (quiet_eraseIdx s i)).runThread env fault t
  | task t ending =>
    have h0 : KeepsSeed c seed { s with tasks := s.tasks.erase t } :=
      ⟨h.there, h.encryptions, h.pinDialogs, h.confirmDialogs⟩
    have h1 := h0.taskEffect t
    show KeepsSeed c seed (runTask t ending _)
    unfold runTask
    split
    · dsimp only
      split
      · exact ⟨h1.there, h1.encryptions, h1.pinDialogs, h1.confirmDialogs⟩
      · exact ⟨h1.there, h1.encryptions, h1.pinDialogs, h1.confirmDialogs⟩
      · exact ⟨h1.there, h1.encryptions, h1.pinDialogs, h1.confirmDialogs⟩
    · dsimp only
      split
      · exact ⟨h1.there, h1.encryptions, h1.pinDialogs, h1.confirmDialogs⟩
      · exact ⟨h0.there, h0.encryptions, h0.pinDialogs, h0.confirmDialogs⟩
  | complete status env =>
    have h0 : KeepsSeed c seed { s with completions := s.completions.erase status } :=
      ⟨h.there, h.encryptions, h.pinDialogs, h.confirmDialogs⟩
    rcases quiet_processStartupFinish testnet env status
      { s with completions := s.completions.erase status } with hq | hq
    · exact h0.quiet hq
    · exact h0.clearApp.quiet hq
  | delayedEncryption payload =>
    refine ⟨h.there, ?_, ?_, h.confirmDialogs⟩
    · exact fun p hp => h.encryptions p (List.mem_of_mem_erase hp)
    · intro p hp
      rcases List.mem_cons.mp hp with rfl | hold
      · exact h.encryptions p hen
      · exact h.pinDialogs p hold
  | newPin payload newPin =>
    refine ⟨h.there, h.encryptions, h.pinDialogs, ?_⟩
    intro a ha
    rcases List.mem_cons.mp ha with rfl | hold
    · exact h.pinDialogs payload hen
    · exact h.confirmDialogs a hold
  | confirmPin payload newPin confirmPin env encryptEnv =>
    exact h.confirmPin hen env encryptEnv confirmPin
  | restoreMoves | restoreDone => exact ⟨h.there, h.encryptions, h.pinDialogs, h.confirmDialogs⟩
  | kill => exact ⟨h.there, nofun, nofun, nofun⟩

/-- The phone of an old version, with the seed in the clear, and a process that did nothing yet. -/
structure Unencrypted (seed : Bytes) (s : StartupActivity SecretKey) : Prop where
  unencrypted : fileAt s.phone.datadir UNENCRYPTED_SEED_NAME = some seed
  seedFile : fileAt s.phone.datadir SEED_NAME = none
  delayedEncryptions : s.delayedEncryptions = []
  pinDialogs : s.pinDialogs = []
  confirmDialogs : s.confirmDialogs = []

theorem Unencrypted.keepsSeed (h : Unencrypted seed s) : KeepsSeed c seed s := by
  refine ⟨.inl ⟨h.unencrypted, h.seedFile⟩, ?_, ?_, ?_⟩
  · rw [h.delayedEncryptions]
    exact nofun
  · rw [h.pinDialogs]
    exact nofun
  · rw [h.confirmDialogs]
    exact nofun

/-- **The seed is never lost.**  Whatever fails, and whenever the process is killed, the seed of the
old version is in its file, or the seed file opens with a complete PIN and decodes to it. -/
theorem seed_of_reach (hc : c.Lawful)
    (h : Reach (step c d k w testnet) anyStep (Unencrypted seed) s) :
    fileAt s.phone.datadir UNENCRYPTED_SEED_NAME = some seed ∨
      ∃ pin opened, pin.length = PIN_LENGTH ∧
        readSeedAndDecrypt c s.phone.datadir pin = .ok (opened, seed) ∧
        decodeSeed d opened seed = d.hexDecode seed := by
  have hkeeps : KeepsSeed c seed s := by
    refine Reach.invariant (I := KeepsSeed c seed) (fun _ h => h.keepsSeed) ?_ s h
    intro s event s' hs _ hstep
    obtain ⟨hen, rfl⟩ := (step_eq_some_iff c d k w testnet).mp hstep
    exact hs.act hen
  rcases hkeeps.there with ⟨hunenc, -⟩ | ⟨-, pin, hpin, hholds⟩
  · exact .inl hunenc
  · obtain ⟨opened, hopen, hversion⟩ := hholds.opens hc
    refine .inr ⟨pin, opened, hpin, hopen, ?_⟩
    unfold decodeSeed
    rw [if_pos hversion]

end

/-! ### A run that encrypts the seed -/

namespace KnownRun

open Known

def unencrypted : StartupActivity Bytes where
  signIn := { phone := { datadir := some fun name =>
                           if name = UNENCRYPTED_SEED_NAME then some blob else none
                         pin := none, useBiometrics := false, keyForPin := false } }

theorem run_unencrypted : (run (step crypto decoders SecuritySettingsActivity.Enrolled.pinCipher
      wallet false) unencrypted [.resume env, .delayedEncryption blob, .newPin blob pin,
        .confirmPin blob pin pin env { salt := salt, iv := iv }]).map
      (fun s => fileAt s.phone.datadir UNENCRYPTED_SEED_NAME) = some none := by
  decide +kernel

/-- The seed is encrypted, and its file is deleted. -/
theorem seed_of_reach_encrypted : ∃ s : StartupActivity Bytes,
    fileAt s.phone.datadir UNENCRYPTED_SEED_NAME = none ∧
    (fileAt s.phone.datadir UNENCRYPTED_SEED_NAME = some blob ∨
      ∃ pin opened, pin.length = PIN_LENGTH ∧
        readSeedAndDecrypt crypto s.phone.datadir pin = .ok (opened, blob) ∧
        decodeSeed decoders opened blob = decoders.hexDecode blob) := by
  obtain ⟨s, hs, hgone⟩ := Option.map_eq_some_iff.mp run_unencrypted
  have hinit : Unencrypted blob unencrypted := by
    refine ⟨?_, ?_, rfl, rfl, rfl⟩
    · decide +kernel
    · decide +kernel
  exact ⟨s, hgone, seed_of_reach (Crypto.ofKnown_lawful answers) (reach_of_run hinit hs)⟩

end KnownRun

end StartupActivity

end EclairMobile
