import EclairMobile.Activities.StartupRuns

/-!
# The channels of a restored wallet

A wallet that was restored from its seed may have channels in a backup.  The node must not create a
new database of channels before the backup was looked for.
-/

namespace EclairMobile

open Lib AesCbcWithIntegrity WalletUtils EclairActivity

namespace StartupActivity

variable {SecretKey Key : Type} {c : Crypto} {d : SeedDecoders} {k : PinCipher SecretKey}
  {w : DeterministicWallet Key} {testnet : Bool} {s s' : StartupActivity SecretKey}

/-- The restore is over, or there is a database of the channels. -/
def Settled (s : StartupActivity SecretKey) : Prop :=
  s.channelsRestoreDone = true ∨ s.eclairDB ≠ none

/-- The thread decided that no restore is due. -/
def pastRestore : StartupPc → Bool
  | .checkAccess | .setStarting | .execute => true
  | _ => false

/-- The wallet may have channels elsewhere, and none are created before the restore. -/
structure RestoreFirst (s : StartupActivity SecretKey) : Prop where
  origin : s.walletOrigin.getD WALLET_ORIGIN_RESTORED_FROM_SEED = WALLET_ORIGIN_RESTORED_FROM_SEED
  created : s.eclairDB = some .created → s.channelsRestoreDone = true
  threads : ∀ t ∈ s.threads, ∀ o pc, t.state = .opened o pc → pastRestore pc = true → Settled s
  tasks : ∀ t ∈ s.tasks, Settled s

theorem Settled.quiet (h : Settled s) (hq : Quiet s s') : Settled s' := by
  rcases h with h | h
  · exact .inl (hq.channelsRestoreDone.trans h)
  · refine .inr ?_
    rcases hq.eclairDB with heq | heq
    · rw [heq]
      exact h
    · rw [heq]
      exact Option.some_ne_none _

theorem RestoreFirst.quiet (h : RestoreFirst s) (hq : Quiet s s') : RestoreFirst s' := by
  refine ⟨?_, ?_, ?_, ?_⟩
  · rw [hq.walletOrigin]
    exact h.origin
  · intro hcreated
    rw [hq.channelsRestoreDone]
    rcases hq.eclairDB with heq | heq
    · exact h.created (heq.symm.trans hcreated)
    · rw [heq] at hcreated
      cases hcreated
  · intro t ht o pc hstate hpast
    rcases hq.threads t ht with hold | ⟨password, hread⟩
    · exact (h.threads t hold o pc hstate hpast).quiet hq
    · rw [hread] at hstate
      cases hstate
  · rw [hq.tasks]
    exact fun t ht => (h.tasks t ht).quiet hq

theorem RestoreFirst.setMemory (h : RestoreFirst s) (pin : Option String) (memory : AppMemory) :
    RestoreFirst { s.setPin pin with memory := memory } :=
  ⟨h.origin, h.created, h.threads, h.tasks⟩

theorem RestoreFirst.clearApp (h : RestoreFirst s) : RestoreFirst s.clearApp :=
  h.setMemory _ _

theorem RestoreFirst.addThread (h : RestoreFirst s) (activity : ℕ) (o : OpenedSeed)
    {pc : StartupPc} (hpast : pastRestore pc = true → Settled s) :
    RestoreFirst
      { s with threads := { activity := activity, state := .opened o pc } :: s.threads } := by
  refine ⟨h.origin, h.created, ?_, h.tasks⟩
  intro t ht o' pc' hstate hpast'
  rcases List.mem_cons.mp ht with rfl | hold
  · cases hstate
    exact hpast hpast'
  · exact h.threads t hold o' pc' hstate hpast'

/-- No restore is due: it is over, or there is a database. -/
theorem RestoreFirst.settled (h : RestoreFirst s) (hnot : s.shouldRestoreChannelsBackup = false) :
    Settled s := by
  unfold shouldRestoreChannelsBackup at hnot
  rw [h.origin] at hnot
  by_cases hdone : s.channelsRestoreDone = true
  · exact .inl hdone
  · refine .inr fun hnone => ?_
    rw [hnone, Bool.eq_false_of_not_eq_true hdone] at hnot
    cases hnot

/-- A thread goes on behind the check only if no restore is due. -/
theorem RestoreFirst.runOpened (h : RestoreFirst s) (env : StartupEnv) (activity : ℕ)
    (o : OpenedSeed) {pc : StartupPc} (hpast : pastRestore pc = true → Settled s) :
    RestoreFirst (s.runOpened env activity o pc).1 ∧
      ∀ pc' ∈ (s.runOpened env activity o pc).2, pastRestore pc' = true →
        Settled (s.runOpened env activity o pc).1 := by
  cases pc with
  | setPin | setSeedHash | setBackupKey_v1 | setBackupKey_v2 =>
    refine ⟨h.setMemory _ _, ?_⟩
    intro pc' hpc' hpast'
    obtain rfl := Option.some.inj hpc'
    cases hpast'
  | checkRestore =>
    unfold StartupActivity.runOpened
    dsimp only
    split
    · exact ⟨h.quiet (quiet_startActivity (by simp)), nofun⟩
    · next hnot => exact ⟨h, fun _ _ _ => h.settled (Bool.eq_false_of_not_eq_true hnot)⟩
  | checkAccess =>
    unfold StartupActivity.runOpened
    dsimp only
    split
    · exact ⟨h.quiet (quiet_startActivity (by simp)), nofun⟩
    · exact ⟨h, fun _ _ _ => hpast rfl⟩
  | setStarting =>
    unfold StartupActivity.runOpened
    dsimp only
    have hset : Quiet s
        (if activity = s.activity then { s with isStartingNode := true } else s) := by
      split
      · exact .of_view rfl
      · exact .refl s
    exact ⟨h.quiet hset, fun _ _ _ => (hpast rfl).quiet hset⟩
  | execute =>
    refine ⟨⟨h.origin, h.created, h.threads, ?_⟩, nofun⟩
    intro t ht
    exact hpast rfl

theorem RestoreFirst.runThread (h : RestoreFirst s) (env : StartupEnv) (fault : Option Throwable)
    {t : StartupThread}
    (ht : ∀ o pc, t.state = .opened o pc → pastRestore pc = true → Settled s) :
    RestoreFirst (runThread c d w testnet env fault t s) := by
  rcases runThread_cases c d w testnet env fault t s with
    hq | ⟨password, o, -, -, heq⟩ | ⟨o, pc, hstate, heq⟩
  · exact h.clearApp.quiet hq
  · rw [heq]
    exact h.addThread t.activity o nofun
  · rw [heq]
    obtain ⟨hrun, hnext⟩ := h.runOpened env t.activity o (ht o pc hstate)
    generalize s.runOpened env t.activity o pc = r at hrun hnext
    obtain ⟨s₁, next⟩ := r
    cases next with
    | none => exact hrun
    | some pc' => exact hrun.addThread t.activity o (hnext pc' rfl)

/-- A task creates the database only when the restore is over. -/
theorem RestoreFirst.taskEffect (h : RestoreFirst s) (t : StartupTask) (hset : Settled s) :
    RestoreFirst (taskEffect t s) ∧ Settled (taskEffect t s) := by
  unfold StartupActivity.taskEffect
  split
  · exact ⟨h.setMemory _ _, hset⟩
  · have hsetup : Settled
        { s with eclairDB := some (s.eclairDB.getD .created), networkDB := true } :=
      .inr (Option.some_ne_none _)
    refine ⟨⟨h.origin, ?_, fun _ _ _ _ _ _ => hsetup, fun _ _ => hsetup⟩, hsetup⟩
    intro hcreated
    rcases hset with hdone | hthere
    · exact hdone
    · obtain ⟨db, hdb⟩ := Option.ne_none_iff_exists'.mp hthere
      rw [hdb] at hcreated
      exact h.created (hdb.trans hcreated)
  · exact ⟨h.setMemory _ _, hset⟩

theorem RestoreFirst.runTask (h : RestoreFirst s) (t : StartupTask) (ending : TaskEnd)
    (hset : Settled s) : RestoreFirst (runTask t ending s) := by
  obtain ⟨heffect, hset'⟩ := h.taskEffect t hset
  have hnext : ∀ pc, RestoreFirst
      { StartupActivity.taskEffect t s with
        tasks := { t with pc := pc } :: (StartupActivity.taskEffect t s).tasks } := fun pc =>
    ⟨heffect.origin, heffect.created, heffect.threads, fun _ _ => hset'⟩
  unfold StartupActivity.runTask
  split
  · dsimp only
    split
    · exact hnext .setup
    · exact hnext .bootstrap
    · exact heffect.quiet (.of_view rfl)
  · dsimp only
    split
    · exact heffect.quiet (.of_view rfl)
    · exact h.quiet (.of_view rfl)

theorem RestoreFirst.act (h : RestoreFirst s) {event : Event} (hen : Enabled s event) :
    RestoreFirst (s.act c d k w testnet event) := by
  cases event with
  | create | resume | storageOk | pin | biometricFailed | biometricSucceeded | post | drop
  | delayedStart | delayedCheck => exact h.quiet (quiet_act c d k w testnet s rfl)
  | thread i env fault =>
    rcases act_thread c d k w testnet s i env fault with heq | ⟨t, ht, heq⟩
    · rw [heq]
      exact h
    · rw [heq]
      refine (h.quiet (quiet_eraseIdx s i)).runThread env fault ?_
      exact fun o pc hstate hpast => h.threads t ht o pc hstate hpast
  | task t ending =>
    have hset : Settled s := h.tasks t hen.1
    have h0 : RestoreFirst { s with tasks := s.tasks.erase t } :=
      ⟨h.origin, h.created, h.threads, fun _ _ => hset⟩
    exact h0.runTask t ending hset
  | complete status env =>
    have h0 : RestoreFirst { s with completions := s.completions.erase status } :=
      h.quiet (.of_view rfl)
    rcases quiet_processStartupFinish testnet env status
      { s with completions := s.completions.erase status } with hq | hq
    · exact h0.quiet hq
    · exact h0.clearApp.quiet hq
  | delayedEncryption payload => exact ⟨h.origin, h.created, h.threads, h.tasks⟩
  | newPin payload newPin => exact ⟨h.origin, h.created, h.threads, h.tasks⟩
  | confirmPin payload newPin confirmPin env encryptEnv =>
    have h0 : RestoreFirst
        (s.setPhone (encrypted c encryptEnv payload newPin confirmPin s.phone)) :=
      ⟨h.origin, h.created, h.threads, h.tasks⟩
    exact h0.quiet (quiet_callbacks env _ _)
  | restoreMoves =>
    have hset : Settled { s with eclairDB := some .restored } := .inr (Option.some_ne_none _)
    refine ⟨h.origin, ?_, fun _ _ _ _ _ _ => hset, fun _ _ => hset⟩
    intro hcreated
    cases hcreated
  | restoreDone =>
    exact ⟨h.origin, fun _ => rfl, fun _ _ _ _ _ _ => .inl rfl, fun _ _ => .inl rfl⟩
  | kill => exact ⟨h.origin, h.created, nofun, nofun⟩

/-- A wallet that was restored from its seed, or whose origin is not known, before its first
start. -/
structure RestoredWallet (s : StartupActivity SecretKey) : Prop where
  origin : s.walletOrigin.getD WALLET_ORIGIN_RESTORED_FROM_SEED = WALLET_ORIGIN_RESTORED_FROM_SEED
  eclairDB : s.eclairDB = none
  threads : s.threads = []
  tasks : s.tasks = []

theorem RestoredWallet.restoreFirst (h : RestoredWallet s) : RestoreFirst s := by
  refine ⟨h.origin, ?_, ?_, ?_⟩
  · rw [h.eclairDB]
    exact nofun
  · rw [h.threads]
    exact nofun
  · rw [h.tasks]
    exact nofun

/-- **No new channels before the restore.**  In every run from a restored wallet, a database of the
channels that the node created is there only after the restore screen is done; until then no task
that boots the node is started at all, unless there is a database already. -/
theorem restoreFirst_of_reach (h : Reach (step c d k w testnet) anyStep RestoredWallet s) :
    (s.eclairDB = some .created → s.channelsRestoreDone = true) ∧
      (s.channelsRestoreDone = false → s.eclairDB = none → s.tasks = []) := by
  have hfirst : RestoreFirst s := by
    refine Reach.invariant (I := RestoreFirst) (fun _ h => h.restoreFirst) ?_ s h
    intro s event s' hs _ hstep
    obtain ⟨hen, rfl⟩ := (step_eq_some_iff c d k w testnet).mp hstep
    exact hs.act hen
  refine ⟨hfirst.created, ?_⟩
  intro hdone hnone
  apply List.eq_nil_iff_forall_not_mem.mpr
  intro t ht
  rcases hfirst.tasks t ht with hset | hset
  · rw [hdone] at hset
    cases hset
  · exact hset hnone

/-! ### A run through the restore screen -/

namespace KnownRun

/-- The channels are created behind the restore screen. -/
theorem restoreFirst_of_reach_created : ∃ s : StartupActivity Bytes,
    s.eclairDB = some .created ∧
      (s.eclairDB = some .created → s.channelsRestoreDone = true) ∧
      (s.channelsRestoreDone = false → s.eclairDB = none → s.tasks = []) := by
  obtain ⟨s, hs, hview⟩ := Option.map_eq_some_iff.mp run_locked
  have hinit : RestoredWallet locked := ⟨rfl, rfl, rfl, rfl⟩
  exact ⟨s, (Prod.mk.inj (Prod.mk.inj hview).2).1, restoreFirst_of_reach (reach_of_run hinit hs)⟩

end KnownRun

end StartupActivity

end EclairMobile
