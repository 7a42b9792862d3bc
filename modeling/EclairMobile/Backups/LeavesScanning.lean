import EclairMobile.Backups.ConcludesWhenDone

/-!
# The step of a scan is left again

While the restore screen shows that it is scanning, a scan thread, the polling timer or the file
picker is to come back.  The exception is a picker that is cancelled or gives no data: nothing is
done with its result, and if nothing else is pending the screen scans for ever.
-/

namespace EclairMobile

namespace RestoreChannelsBackupActivity

open Lib

namespace Screen

/-! ### The property and its condition -/

/-- Something that leaves the step of a scan is to come. -/
def Pending (s : Screen) : Prop := s.threads ≠ [] ∨ 0 < s.scanChecks ∨ 0 < s.pickers

/-- What is asked of a state. -/
def LeavesScanning (s : Screen) : Prop := s.restoreStep = .SCANNING → s.Pending

/-- A picker that comes back without a file is not the last thing that is pending. -/
def KeepsPending (s : Screen) : Event → Prop
  | .pickResult .canceled | .pickResult .noData =>
    s.restoreStep = .SCANNING → s.threads ≠ [] ∨ 0 < s.scanChecks ∨ 1 < s.pickers
  | _ => True

instance (s : Screen) : DecidablePred s.KeepsPending := by
  intro e
  unfold KeepsPending
  split <;> infer_instance

instance (s : Screen) : Decidable s.Pending := inferInstanceAs (Decidable (_ ∨ _ ∨ _))

/-! ### The parts of the events -/

section

variable {s : Screen}

theorem LeavesScanning.of_ne (h : s.restoreStep ≠ .SCANNING) : s.LeavesScanning :=
  fun hs => absurd hs h

theorem LeavesScanning.startScanning (s : Screen) : s.startScanning.LeavesScanning := by
  unfold Screen.startScanning
  dsimp only
  split_ifs
  · exact fun _ => Or.inl (List.cons_ne_nil _ _)
  · exact of_ne (by simp)

theorem LeavesScanning.checkAccessRequestIsDone (h : s.LeavesScanning) :
    s.checkAccessRequestIsDone.LeavesScanning := by
  unfold Screen.checkAccessRequestIsDone
  split_ifs
  · exact h
  · exact startScanning _

theorem LeavesScanning.requestAccess (h : s.LeavesScanning) (boxes : Checkboxes)
    (env : AccessEnv) : (s.requestAccess boxes env).LeavesScanning := by
  unfold Screen.requestAccess
  split_ifs
  · apply checkAccessRequestIsDone
    rw [askAccess_eq]
    exact h
  · exact startScanning _

/-- The backups are handled by leaving the step, whatever they are. -/
theorem restoreStep_handleBackups_ne (s : Screen) : s.handleBackups.restoreStep ≠ .SCANNING := by
  unfold Screen.handleBackups
  split
  · dsimp only
    split_ifs <;> simp
  · simp
  · simp
  · simp

theorem LeavesScanning.checkScanningDone (s : Screen) : s.checkScanningDone.LeavesScanning := by
  unfold Screen.checkScanningDone
  dsimp only
  split_ifs
  · exact of_ne (by simp)
  · exact fun _ => Or.inr (Or.inl (Nat.succ_pos _))
  · exact of_ne (restoreStep_handleBackups_ne _)

variable {bucket : BackupTypes → ℕ}

theorem LeavesScanning.runThread (s : Screen) (thread : ScanThread) (outcome : ScanOutcome) :
    (s.runThread bucket thread outcome).LeavesScanning := by
  unfold Screen.runThread
  dsimp only
  cases thread.pc with
  | setRestoreStep => exact fun _ => Or.inl (List.cons_ne_nil _ _)
  | putLocal => exact fun _ => Or.inl (List.cons_ne_nil _ _)
  | scanLocalDevice => exact fun _ => Or.inl (List.cons_ne_nil _ _)
  | putGdrive => exact fun _ => Or.inl (List.cons_ne_nil _ _)
  | scanGoogleDrive => exact fun _ => Or.inl (List.cons_ne_nil _ _)
  | postCheck => exact fun _ => Or.inr (Or.inl (Nat.succ_pos _))

/-- The listeners of Google Drive record a result, or request access again. -/
theorem LeavesScanning.onListing (h : s.LeavesScanning) (result : DriveListing) :
    (onListing bucket s result).LeavesScanning := by
  cases result with
  | found file => exact h
  | empty => exact h
  | failure => exact h
  | authFailure boxes env => exact requestAccess (of_ne (by simp)) boxes env

theorem LeavesScanning.onContent (h : s.LeavesScanning) (file : DriveFile)
    (result : DriveContent) : (onContent bucket s file result).LeavesScanning := by
  rcases result with (_ | _) | _ <;> exact h

end

/-! ### Runs -/

section

variable {bucket : BackupTypes → ℕ} {s s' : Screen}

theorem LeavesScanning.pickResult {result : PickResult}
    (hc : s.KeepsPending (.pickResult result)) :
    (onPickResult bucket { s with pickers := s.pickers - 1 } result).LeavesScanning := by
  cases result with
  | picked outcome => exact of_ne (restoreStep_handleBackups_ne _)
  | canceled =>
    intro hscanning
    rcases hc hscanning with ht | ht | ht
    · exact Or.inl ht
    · exact Or.inr (Or.inl ht)
    · exact Or.inr (Or.inr (Nat.sub_pos_of_lt ht))
  | noData =>
    intro hscanning
    rcases hc hscanning with ht | ht | ht
    · exact Or.inl ht
    · exact Or.inr (Or.inl ht)
    · exact Or.inr (Or.inr (Nat.sub_pos_of_lt ht))

theorem LeavesScanning.step (h : s.LeavesScanning) {e : Event} (hc : s.KeepsPending e)
    (hs : Screen.step bucket s e = some s') : s'.LeavesScanning := by
  cases e <;> simp only [Screen.step, Option.ite_none_right_eq_some, Option.some_inj] at hs
  case scan boxes env =>
    obtain ⟨-, rfl⟩ := hs
    unfold Screen.scan
    split_ifs
    · exact requestAccess (of_ne (by simp)) boxes env
    · exact h
  case browse =>
    obtain ⟨-, rfl⟩ := hs
    exact fun _ => Or.inr (Or.inr (Nat.succ_pos _))
  case tryAgain =>
    obtain ⟨-, rfl⟩ := hs
    exact of_ne (by simp)
  case confirmRestore fileExists =>
    obtain ⟨-, rfl⟩ := hs
    unfold Screen.restoreBestBackup
    split_ifs
    · exact h
    · exact h
  case accessCheck =>
    obtain ⟨-, rfl⟩ := hs
    exact h.checkAccessRequestIsDone
  case permissionResult granted =>
    obtain ⟨-, rfl⟩ := hs
    exact h
  case revocation success =>
    obtain ⟨-, rfl⟩ := hs
    split_ifs
    · exact h
    · exact h
  case signInResult success =>
    obtain ⟨-, rfl⟩ := hs
    exact h
  case scanThread thread outcome =>
    obtain ⟨-, rfl⟩ := hs
    exact runThread s thread outcome
  case listing result =>
    obtain ⟨-, rfl⟩ := hs
    exact onListing (s := { s with listings := s.listings - 1 }) h result
  case content file result =>
    obtain ⟨-, rfl⟩ := hs
    exact onContent (s := { s with contents := s.contents.erase file }) h file result
  case scanCheck =>
    obtain ⟨-, rfl⟩ := hs
    exact checkScanningDone _
  case pickResult result =>
    obtain ⟨-, rfl⟩ := hs
    exact pickResult hc
  case restoreThread moved =>
    obtain ⟨-, rfl⟩ := hs
    split_ifs
    · exact of_ne (by simp)
    · exact h

/-- Any other picker that comes back without a file leaves the screen scanning. -/
theorem not_leavesScanning_of_step {e : Event} (hc : ¬s.KeepsPending e)
    (hs : Screen.step bucket s e = some s') : ¬s'.LeavesScanning := by
  have hlast : ∀ t : Screen, ¬(s.restoreStep = .SCANNING →
      s.threads ≠ [] ∨ 0 < s.scanChecks ∨ 1 < s.pickers) →
        t = { s with pickers := s.pickers - 1 } → ¬t.LeavesScanning := by
    rintro t hnot rfl hleaves
    rw [Classical.not_imp, not_or, not_or] at hnot
    obtain ⟨hscanning, hthreads, hchecks, hpickers⟩ := hnot
    rcases hleaves hscanning with ht | ht | ht
    · exact hthreads ht
    · exact hchecks ht
    · exact hpickers (Nat.lt_of_sub_pos ht)
  unfold KeepsPending at hc
  split at hc
  · simp only [Screen.step, Option.ite_none_right_eq_some, Option.some_inj] at hs
    exact hlast s' hc hs.2.symm
  · simp only [Screen.step, Option.ite_none_right_eq_some, Option.some_inj] at hs
    exact hlast s' hc hs.2.symm
  · exact absurd trivial hc

end

/-- The step, and whether something is pending, after these events. -/
def pendingAfter (events : List Event) : Option (RestoreStep × Bool) :=
  (run (step ordinal) {} events).map fun s => (s.restoreStep, decide s.Pending)

end Screen

end RestoreChannelsBackupActivity

end EclairMobile
