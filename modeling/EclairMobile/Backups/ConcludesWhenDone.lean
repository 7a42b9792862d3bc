import EclairMobile.Activities.RestoreScreen
import EclairMobile.Lib.Reach

/-!
# An attempt concludes when its sources have recorded their results

In every run in which the polling timer fires neither while access is being requested nor while a
scan thread is about to start a scan, a concluding step is shown only when every source of the
attempt has recorded its result.  One activity at a time is under way in such a run: the access
requests, a scan thread, a task of Google Drive or the file picker.
-/

namespace EclairMobile

namespace RestoreChannelsBackupActivity

open Lib

/-- The thread still has to scan something. -/
def ScanThread.Busy (thread : ScanThread) : Prop := thread.pc ≠ .postCheck

instance : DecidablePred ScanThread.Busy := fun _ => inferInstanceAs (Decidable (_ ≠ _))

/-- The next action of the thread starts a scan. -/
def ScanThread.AboutToScan (thread : ScanThread) : Prop :=
  thread.pc ∈ [.setRestoreStep, .putLocal, .putGdrive]

instance : DecidablePred ScanThread.AboutToScan := fun _ => inferInstanceAs (Decidable (_ ∈ _))

/-- The thread has still to put the entry of the source into the results. -/
def ScanThread.WillStart (thread : ScanThread) : BackupTypes → Prop
  | .LOCAL => thread.pc ∈ [.setRestoreStep, .putLocal]
  | .GDRIVE => thread.hasGdriveAccess ∧
      thread.pc ∈ [.setRestoreStep, .putLocal, .scanLocalDevice, .putGdrive]

theorem ScanThread.WillStart.busy {thread : ScanThread} {type : BackupTypes}
    (h : thread.WillStart type) : thread.Busy := by
  intro hpc
  cases type <;> simp [ScanThread.WillStart, hpc] at h

namespace Screen

/-! ### The property and its condition -/

def AllRecorded (s : Screen) : Prop := ∀ type, s.unrecorded type = false

/-- A step that concludes an attempt is shown. -/
def Concluded (s : Screen) : Prop :=
  s.restoreStep ∈ [.FOUND, .FOUND_WITH_CONFLICT, .NOT_FOUND]

/-- What is asked of a state: all sources have recorded their results if a concluding step is shown,
and no access is being requested. -/
def ConcludesWhenDone (s : Screen) : Prop :=
  s.Concluded → s.AllRecorded ∧ s.accessCheck = false

/-- The polling timer fires neither while access is being requested nor while a scan thread is about
to start a scan. -/
def Careful (s : Screen) : Event → Prop
  | .scanCheck => s.accessCheck = false ∧ ∀ thread ∈ s.threads, ¬ thread.AboutToScan
  | _ => True

instance (s : Screen) : DecidablePred s.Careful := by
  intro e
  unfold Careful
  split <;> infer_instance

/-! ### One activity at a time -/

/-- How many activities are under way. -/
def activities (s : Screen) : ℕ :=
  (if s.accessCheck then 1 else 0) + s.threads.countP (·.Busy) + s.listings + s.contents.length +
    s.pickers

/-- The steps in which the buttons are visible. -/
def ShowsButtons (s : Screen) : Prop := s.restoreStep.value ∈ [0, 3, 4, 5, 6]

/-- The source is being scanned, or a file for it is being picked. -/
def Scanning (s : Screen) : BackupTypes → Prop
  | .LOCAL => (∃ thread ∈ s.threads, thread.pc = .scanLocalDevice) ∨ 0 < s.pickers
  | .GDRIVE => (∃ thread ∈ s.threads, thread.pc = .scanGoogleDrive) ∨
      0 < s.listings + s.contents.length

/-- The source has a null entry in the results. -/
def Null (s : Screen) (type : BackupTypes) : Prop :=
  s.mExpectedBackupsMap.lookup type = some none

/-- The invariant. -/
structure Sane (s : Screen) : Prop where
  activities_le : s.activities ≤ 1
  resting : s.ShowsButtons → s.activities = 0
  scanning : ∀ type, s.Scanning type → s.Null type
  picked : 0 < s.pickers → s.unrecorded .GDRIVE = false
  unrecorded : ∀ type, s.unrecorded type = true →
    s.accessCheck = true ∨ s.Null type ∨ ∃ thread ∈ s.threads, thread.WillStart type
  concluded : s.Concluded → s.AllRecorded

/-! ### Facts about the parts -/

section

variable {s : Screen}

theorem Concluded.showsButtons (h : s.Concluded) : s.ShowsButtons := by
  unfold Concluded at h
  unfold ShowsButtons
  simp only [List.mem_cons, List.not_mem_nil, or_false] at h
  rcases h with h | h | h <;> rw [h] <;> decide

theorem containsNull_iff : s.containsNull ↔ ∃ type, s.Null type := by
  constructor
  · rintro ⟨⟨type, value⟩, he, hnone⟩
    obtain rfl := Option.isNone_iff_eq_none.mp hnone
    exact ⟨type, AList.mem_lookup_iff.mpr he⟩
  · rintro ⟨type, h⟩
    exact ⟨⟨type, none⟩, AList.mem_lookup_iff.mp h, rfl⟩

theorem lookup_of_entries_nil (h : s.mExpectedBackupsMap.entries = []) (type : BackupTypes) :
    s.mExpectedBackupsMap.lookup type = none := by
  rw [AList.lookup_eq_none, AList.mem_keys, AList.keys, h]
  exact List.not_mem_nil

theorem not_busy_of_resting (h : s.activities = 0) : ∀ thread ∈ s.threads, ¬ thread.Busy := by
  have hzero : s.threads.countP (·.Busy) = 0 := by
    unfold activities at h
    omega
  simpa using hzero

theorem not_scanning_of_resting (h : s.activities = 0) (type : BackupTypes) :
    ¬ s.Scanning type := by
  have hbusy := not_busy_of_resting h
  unfold activities at h
  intro hscanning
  cases type with
  | LOCAL =>
    rcases hscanning with ⟨thread, hmem, hpc⟩ | hpos
    · exact hbusy thread hmem (by simp [ScanThread.Busy, hpc])
    · omega
  | GDRIVE =>
    rcases hscanning with ⟨thread, hmem, hpc⟩ | hpos
    · exact hbusy thread hmem (by simp [ScanThread.Busy, hpc])
    · omega

end

/-! ### States with one activity -/

section Build

variable {s : Screen}

theorem Sane.of_resting (h : s.activities = 0)
    (hunrecorded : ∀ type, s.unrecorded type = true → s.Null type)
    (hconcluded : s.Concluded → s.AllRecorded) : s.Sane := by
  refine ⟨by omega, fun _ => h, ?_, ?_, ?_, hconcluded⟩
  · intro type hscanning
    exact absurd hscanning (not_scanning_of_resting h type)
  · intro hpos
    unfold activities at h
    omega
  · intro type htype
    exact Or.inr (Or.inl (hunrecorded type htype))

theorem Sane.of_accessCheck (h : s.activities = 0) (hstep : ¬ s.ShowsButtons) :
    Sane { s with accessCheck := true } := by
  refine ⟨?_, fun hb => absurd hb hstep, ?_, ?_, fun _ _ => Or.inl rfl,
    fun hc => absurd (Concluded.showsButtons (s := s) hc) hstep⟩
  · unfold activities at h ⊢
    simp only [if_true]
    omega
  · intro type hscanning
    exact absurd hscanning (not_scanning_of_resting h type)
  · intro hpos
    change 0 < s.pickers at hpos
    unfold activities at h
    omega

theorem Sane.of_thread (h : s.activities = 0) (hstep : ¬ s.ShowsButtons) (thread : ScanThread)
    (hlocal : thread.pc = .scanLocalDevice → s.Null .LOCAL)
    (hgdrive : thread.pc = .scanGoogleDrive → s.Null .GDRIVE)
    (hunrecorded : ∀ type, s.unrecorded type = true → s.Null type ∨ thread.WillStart type) :
    Sane { s with threads := thread :: s.threads } := by
  have hrest := not_scanning_of_resting h
  have hone : (if decide thread.Busy = true then 1 else 0) ≤ 1 := by split <;> omega
  refine ⟨?_, fun hb => absurd hb hstep, ?_, ?_, ?_,
    fun hc => absurd (Concluded.showsButtons (s := s) hc) hstep⟩
  · unfold activities at h ⊢
    simp only [List.countP_cons]
    omega
  · intro type hscanning
    cases type with
    | LOCAL =>
      rcases hscanning with ⟨t, hmem, hpc⟩ | hpos
      · rcases List.mem_cons.mp hmem with rfl | hmem
        · exact hlocal hpc
        · exact absurd (Or.inl ⟨t, hmem, hpc⟩) (hrest .LOCAL)
      · exact absurd (Or.inr hpos) (hrest .LOCAL)
    | GDRIVE =>
      rcases hscanning with ⟨t, hmem, hpc⟩ | hpos
      · rcases List.mem_cons.mp hmem with rfl | hmem
        · exact hgdrive hpc
        · exact absurd (Or.inl ⟨t, hmem, hpc⟩) (hrest .GDRIVE)
      · exact absurd (Or.inr hpos) (hrest .GDRIVE)
  · intro hpos
    exact absurd (Or.inr hpos) (hrest .LOCAL)
  · intro type htype
    rcases hunrecorded type htype with hnull | hstart
    · exact Or.inr (Or.inl hnull)
    · exact Or.inr (Or.inr ⟨thread, List.mem_cons_self, hstart⟩)

/-- A task of Google Drive is under way: `listings` and `contents` hold it. -/
theorem Sane.of_drive (h : s.activities = 0) (hstep : ¬ s.ShowsButtons)
    (hgdrive : s.Null .GDRIVE) (hunrecorded : ∀ type, s.unrecorded type = true → s.Null type)
    (listings : ℕ) (contents : List DriveFile) (hone : listings + contents.length = 1) :
    Sane { s with listings := listings, contents := contents } := by
  have hrest := not_scanning_of_resting h
  refine ⟨?_, fun hb => absurd hb hstep, ?_, ?_, ?_,
    fun hc => absurd (Concluded.showsButtons (s := s) hc) hstep⟩
  · unfold activities at h ⊢
    simp only
    omega
  · intro type hscanning
    cases type with
    | LOCAL => exact absurd hscanning (hrest .LOCAL)
    | GDRIVE => exact hgdrive
  · intro hpos
    exact absurd (Or.inr hpos) (hrest .LOCAL)
  · intro type htype
    exact Or.inr (Or.inl (hunrecorded type htype))

theorem Sane.of_picker (h : s.activities = 0) (hstep : ¬ s.ShowsButtons) (hlocal : s.Null .LOCAL)
    (hunrecorded : ∀ type, s.unrecorded type = true → type = .LOCAL) :
    Sane { s with pickers := 1 } := by
  have hrest := not_scanning_of_resting h
  refine ⟨?_, fun hb => absurd hb hstep, ?_, ?_, ?_,
    fun hc => absurd (Concluded.showsButtons (s := s) hc) hstep⟩
  · unfold activities at h ⊢
    simp only
    omega
  · intro type hscanning
    cases type with
    | LOCAL => exact hlocal
    | GDRIVE => exact absurd hscanning (hrest .GDRIVE)
  · intro _
    by_contra hgdrive
    cases hunrecorded .GDRIVE (by simpa using hgdrive)
  · intro type htype
    obtain rfl := hunrecorded type htype
    exact Or.inr (Or.inl hlocal)

end Build

/-! ### Requests for access -/

section Access

variable {s : Screen}

theorem Sane.startScanning (h : s.activities = 0) (hstep : ¬ s.ShowsButtons) :
    s.startScanning.Sane := by
  unfold Screen.startScanning
  by_cases hlocal : s.accessRequestsMap .LOCAL = some (some true)
  · simp only [if_pos hlocal]
    refine Sane.of_thread (s := { s with
        mBestBackup := none
        mExpectedBackupsMap := ∅
        unrecorded := fun type => s.accessRequestsMap type = some (some true) })
      h hstep _ (fun hpc => nomatch hpc) (fun hpc => nomatch hpc) ?_
    intro type htype
    have haccess : s.accessRequestsMap type = some (some true) := of_decide_eq_true htype
    refine Or.inr ?_
    cases type with
    | LOCAL => exact List.mem_cons_self
    | GDRIVE => exact ⟨decide_eq_true haccess, List.mem_cons_self⟩
  · simp only [if_neg hlocal]
    refine Sane.of_resting (s := _) h ?_ ?_
    · intro type htype
      cases htype
    · intro hc
      exact fun _ => rfl

theorem Sane.checkAccessRequestIsDone (h : activities { s with accessCheck := false } = 0)
    (hstep : ¬ s.ShowsButtons) : s.checkAccessRequestIsDone.Sane := by
  unfold Screen.checkAccessRequestIsDone
  split
  · exact Sane.of_accessCheck (s := { s with accessCheck := false }) h hstep
  · exact Sane.startScanning (s := { s with accessCheck := false }) h hstep

theorem askAccess_eq (s : Screen) (boxes : Checkboxes) (env : AccessEnv) :
    s.askAccess boxes env = { s with
      accessRequestsMap := (s.askAccess boxes env).accessRequestsMap
      permissionRequests := (s.askAccess boxes env).permissionRequests
      revocations := (s.askAccess boxes env).revocations
      signIns := (s.askAccess boxes env).signIns } := by
  rcases boxes with ⟨_ | _, _ | _⟩ <;> rcases env with ⟨_ | _, _ | _⟩ <;> rfl

theorem Sane.requestAccess (h : s.activities = 0) (hstep : ¬ s.ShowsButtons)
    (boxes : Checkboxes) (env : AccessEnv) : (s.requestAccess boxes env).Sane := by
  unfold Screen.requestAccess
  split
  · refine Sane.checkAccessRequestIsDone ?_ ?_
    · rw [askAccess_eq]
      unfold activities at h ⊢
      simp only [Bool.false_eq_true, if_false]
      omega
    · rw [askAccess_eq]
      exact hstep
  · exact Sane.startScanning (s := { s with accessRequestsMap := fun _ => none }) h hstep

end Access

/-! ### What one event preserves -/

section Step

variable {s : Screen} {bucket : BackupTypes → ℕ}

theorem Sane.other (h : s.Sane) (m : BackupTypes → Option (Option Bool)) (b : Option BackupScanOk)
    (p r g c n : ℕ) (i : Bool) :
    Sane { s with
      accessRequestsMap := m, mBestBackup := b, permissionRequests := p, revocations := r,
      signIns := g, scanChecks := c, restores := n, isRestoring := i } :=
  ⟨h.activities_le, h.resting, h.scanning, h.picked, h.unrecorded, h.concluded⟩

theorem accessCheck_of_resting (h : s.activities = 0) : s.accessCheck = false := by
  unfold activities at h
  by_contra hcheck
  simp [hcheck] at h

/-- Without access requests and busy threads, a source that has not recorded its result has a null
entry. -/
theorem Sane.null_of_idle (h : s.Sane) (hcheck : s.accessCheck = false)
    (hbusy : ∀ thread ∈ s.threads, ¬ thread.Busy) (type : BackupTypes)
    (htype : s.unrecorded type = true) : s.Null type := by
  rcases h.unrecorded type htype with htrue | hnull | ⟨thread, hmem, hstart⟩
  · rw [hcheck] at htrue
    cases htrue
  · exact hnull
  · exact absurd (ScanThread.WillStart.busy hstart) (hbusy thread hmem)

theorem null_putNull (type : BackupTypes) : (putNull bucket s type).Null type := by
  unfold Null Screen.putNull
  exact lookup_put _ _ _ _

theorem Null.putNull {type type' : BackupTypes} (h : s.Null type) :
    (putNull bucket s type').Null type := by
  by_cases he : type = type'
  · subst he
    exact null_putNull type
  · unfold Null Screen.putNull
    exact (lookup_put_ne _ _ _ _ he).trans h

theorem Null.record {type type' : BackupTypes} {result : Option BackupScanResult} (h : s.Null type)
    (hne : type ≠ type') : (record bucket s type' result).Null type := by
  unfold Null Screen.record
  exact (lookup_put_ne _ _ _ _ hne).trans h

theorem unrecorded_record {type type' : BackupTypes} {result : Option BackupScanResult} :
    (record bucket s type' result).unrecorded type = true ↔
      type ≠ type' ∧ s.unrecorded type = true := by
  unfold Screen.record
  by_cases he : type = type'
  · subst he
    simp
  · simp [he]

theorem Sane.handleBackups (h : s.activities = 0) (hall : s.AllRecorded) :
    s.handleBackups.Sane := by
  have key : ∀ (step : RestoreStep) (best : Option BackupScanOk),
      Sane { s with restoreStep := step, mBestBackup := best } := by
    intro step best
    refine Sane.of_resting (s := { s with restoreStep := step, mBestBackup := best }) h ?_
      (fun _ => hall)
    intro type htype
    exact absurd htype (by simp [hall type])
  unfold Screen.handleBackups
  split
  · exact key _ _
  · exact key _ _
  · exact key _ _
  · exact key _ _

/-- **A careful check that finds no null entry finds that everything is done.** -/
theorem Sane.done (h : s.Sane) (hc : s.Careful .scanCheck) (hnull : ∀ type, ¬ s.Null type) :
    s.activities = 0 ∧ s.AllRecorded := by
  obtain ⟨hcheck, hthreads⟩ := hc
  have hbusy : ∀ thread ∈ s.threads, ¬ thread.Busy := by
    intro thread hmem hbusy
    have habout := hthreads thread hmem
    unfold ScanThread.AboutToScan at habout
    cases hpc : thread.pc with
    | setRestoreStep => exact habout (by simp [hpc])
    | putLocal => exact habout (by simp [hpc])
    | putGdrive => exact habout (by simp [hpc])
    | scanLocalDevice => exact hnull .LOCAL (h.scanning .LOCAL (Or.inl ⟨thread, hmem, hpc⟩))
    | scanGoogleDrive => exact hnull .GDRIVE (h.scanning .GDRIVE (Or.inl ⟨thread, hmem, hpc⟩))
    | postCheck => exact hbusy hpc
  have hdrive : ¬ 0 < s.listings + s.contents.length := fun hpos =>
    hnull .GDRIVE (h.scanning .GDRIVE (Or.inr hpos))
  have hpicker : ¬ 0 < s.pickers := fun hpos => hnull .LOCAL (h.scanning .LOCAL (Or.inr hpos))
  have hcount : s.threads.countP (·.Busy) = 0 := by simpa using hbusy
  have hrest : s.activities = 0 := by
    unfold activities
    rw [hcheck, hcount]
    simp only [Bool.false_eq_true, if_false]
    omega
  refine ⟨hrest, fun type => ?_⟩
  by_contra htype
  exact hnull type (h.null_of_idle hcheck hbusy type (by simpa using htype))

theorem Sane.checkScanningDone (h : s.Sane) (hc : s.Careful .scanCheck) :
    s.checkScanningDone.Sane := by
  unfold Screen.checkScanningDone
  by_cases hempty : s.mExpectedBackupsMap.entries = []
  · simp only [if_pos hempty]
    have hnull : ∀ type, ¬ s.Null type := by
      intro type hnull
      unfold Null at hnull
      rw [lookup_of_entries_nil hempty] at hnull
      cases hnull
    obtain ⟨hrest, hall⟩ := h.done hc hnull
    refine Sane.of_resting (s := { s with mBestBackup := none, restoreStep := .NOT_FOUND }) hrest ?_
      (fun _ => hall)
    intro type htype
    exact absurd htype (by simp [hall type])
  · simp only [if_neg hempty]
    by_cases hcontains : containsNull { s with mBestBackup := none }
    · rw [if_pos hcontains]
      exact ⟨h.activities_le, h.resting, h.scanning, h.picked, h.unrecorded, h.concluded⟩
    · rw [if_neg hcontains]
      obtain ⟨hrest, hall⟩ := h.done hc fun type hnull =>
        hcontains (containsNull_iff.mpr ⟨type, hnull⟩)
      exact Sane.handleBackups (s := { s with mBestBackup := none }) hrest hall

/-- While something is under way, no button is visible. -/
theorem Sane.not_showsButtons (h : s.Sane) (hpos : 0 < s.activities) : ¬ s.ShowsButtons := by
  intro hbuttons
  have hrest := h.resting hbuttons
  omega

theorem Sane.of_busy (h : s.Sane) {thread : ScanThread} (hmem : thread ∈ s.threads)
    (hbusy : thread.Busy) :
    activities { s with threads := s.threads.erase thread } = 0 ∧ ¬ s.ShowsButtons ∧
      ∀ type, s.unrecorded type = true → s.Null type ∨ thread.WillStart type := by
  have hcount : s.threads.countP (·.Busy) = (s.threads.erase thread).countP (·.Busy) + 1 := by
    rw [(List.perm_cons_erase hmem).countP_eq, List.countP_cons, if_pos (decide_eq_true hbusy)]
  have hle := h.activities_le
  have hrest : activities { s with threads := s.threads.erase thread } = 0 := by
    unfold activities at hle ⊢
    simp only at hle ⊢
    omega
  have hpos : 0 < s.activities := by
    unfold activities
    omega
  refine ⟨hrest, h.not_showsButtons hpos, fun type htype => ?_⟩
  rcases h.unrecorded type htype with hcheck | hnull | ⟨t, ht, hstart⟩
  · have hfalse : s.accessCheck = false :=
      accessCheck_of_resting (s := { s with threads := s.threads.erase thread }) hrest
    rw [hfalse] at hcheck
    cases hcheck
  · exact Or.inl hnull
  · -- another busy thread would be left when this one is taken away
    by_cases he : t = thread
    · exact Or.inr (he ▸ hstart)
    · exact absurd (ScanThread.WillStart.busy hstart)
        (not_busy_of_resting hrest t ((List.mem_erase_of_ne he).mpr ht))

theorem Sane.of_threads (h : s.Sane) {threads : List ScanThread}
    (hcount : threads.countP (·.Busy) = s.threads.countP (·.Busy))
    (hmem : ∀ thread : ScanThread, thread.Busy → (thread ∈ threads ↔ thread ∈ s.threads)) :
    Sane { s with threads := threads } := by
  have hsame : activities { s with threads := threads } = s.activities := by
    unfold activities
    simp only [hcount]
  refine ⟨by rw [hsame]; exact h.activities_le, fun hbuttons => hsame.trans (h.resting hbuttons),
    ?_, h.picked, ?_, h.concluded⟩
  · intro type hscanning
    refine h.scanning type ?_
    cases type with
    | LOCAL =>
      refine hscanning.imp_left fun ⟨thread, hthread, hpc⟩ => ⟨thread, ?_, hpc⟩
      exact (hmem thread (by simp [ScanThread.Busy, hpc])).mp hthread
    | GDRIVE =>
      refine hscanning.imp_left fun ⟨thread, hthread, hpc⟩ => ⟨thread, ?_, hpc⟩
      exact (hmem thread (by simp [ScanThread.Busy, hpc])).mp hthread
  · intro type htype
    refine (h.unrecorded type htype).imp_right fun hor => hor.imp_right ?_
    rintro ⟨thread, hthread, hstart⟩
    exact ⟨thread, (hmem thread (ScanThread.WillStart.busy hstart)).mpr hthread, hstart⟩

theorem not_busy_postCheck (access : Bool) : ¬ ScanThread.Busy ⟨access, .postCheck⟩ := by
  simp [ScanThread.Busy]

theorem Sane.cons_postCheck (h : s.Sane) (access : Bool) :
    Sane { s with threads := ⟨access, .postCheck⟩ :: s.threads } := by
  have hidle := not_busy_postCheck access
  refine h.of_threads ?_ ?_
  · rw [List.countP_cons, if_neg (by simpa using hidle), Nat.add_zero]
  · intro thread hbusy
    rw [List.mem_cons, or_iff_right]
    rintro rfl
    exact hidle hbusy

theorem Sane.erase_postCheck (h : s.Sane) {access : Bool}
    (hmem : ⟨access, .postCheck⟩ ∈ s.threads) :
    Sane { s with threads := s.threads.erase ⟨access, .postCheck⟩ } := by
  have hidle := not_busy_postCheck access
  refine h.of_threads ?_ ?_
  · rw [(List.perm_cons_erase hmem).countP_eq, List.countP_cons, if_neg (by simpa using hidle),
      Nat.add_zero]
  · intro thread hbusy
    refine List.mem_erase_of_ne ?_
    rintro rfl
    exact hidle hbusy

theorem Sane.runThread (h : s.Sane) {thread : ScanThread} (hmem : thread ∈ s.threads)
    (outcome : ScanOutcome) : (s.runThread bucket thread outcome).Sane := by
  obtain ⟨access, pc⟩ := thread
  cases pc with
  | setRestoreStep =>
    obtain ⟨hrest, hstep, hunrec⟩ := h.of_busy hmem (by simp [ScanThread.Busy])
    refine Sane.of_thread (s := { s with
        threads := s.threads.erase _, restoreStep := .SCANNING })
      hrest (by simp [ShowsButtons, RestoreStep.value]) ⟨access, .putLocal⟩
      (fun hpc => nomatch hpc) (fun hpc => nomatch hpc) ?_
    intro type htype
    refine (hunrec type htype).imp_right fun hstart => ?_
    cases type with
    | LOCAL => exact List.mem_cons_of_mem _ List.mem_cons_self
    | GDRIVE => exact ⟨hstart.1, List.mem_cons_of_mem _ List.mem_cons_self⟩
  | putLocal =>
    obtain ⟨hrest, hstep, hunrec⟩ := h.of_busy hmem (by simp [ScanThread.Busy])
    refine Sane.of_thread (s := putNull bucket { s with threads := s.threads.erase _ } .LOCAL)
      hrest hstep ⟨access, .scanLocalDevice⟩ (fun _ => null_putNull .LOCAL)
      (fun hpc => nomatch hpc) ?_
    intro type htype
    cases type with
    | LOCAL => exact Or.inl (null_putNull .LOCAL)
    | GDRIVE =>
      rcases hunrec .GDRIVE htype with hnull | hstart
      · exact Or.inl (Null.putNull (s := { s with threads := s.threads.erase _ }) hnull)
      · exact Or.inr ⟨hstart.1, by simp⟩
  | scanLocalDevice =>
    obtain ⟨hrest, hstep, hunrec⟩ := h.of_busy hmem (by simp [ScanThread.Busy])
    refine Sane.of_thread (s := record bucket { s with threads := s.threads.erase _ } .LOCAL
        (localResult outcome))
      hrest hstep ⟨access, if access then .putGdrive else .postCheck⟩
      (fun hpc => by cases access <;> cases hpc) (fun hpc => by cases access <;> cases hpc) ?_
    intro type htype
    obtain ⟨hne, htype⟩ := unrecorded_record.mp htype
    rcases hunrec type htype with hnull | hstart
    · exact Or.inl (Null.record (s := { s with threads := s.threads.erase _ }) hnull hne)
    · cases type with
      | LOCAL => exact absurd rfl hne
      | GDRIVE =>
        obtain ⟨haccess, -⟩ := hstart
        refine Or.inr ⟨haccess, ?_⟩
        have haccess : access = true := haccess
        simp [haccess]
  | putGdrive =>
    obtain ⟨hrest, hstep, hunrec⟩ := h.of_busy hmem (by simp [ScanThread.Busy])
    refine Sane.of_thread (s := putNull bucket { s with threads := s.threads.erase _ } .GDRIVE)
      hrest hstep ⟨access, .scanGoogleDrive⟩ (fun hpc => nomatch hpc)
      (fun _ => null_putNull .GDRIVE) ?_
    intro type htype
    cases type with
    | LOCAL =>
      rcases hunrec .LOCAL htype with hnull | hstart
      · exact Or.inl (Null.putNull (s := { s with threads := s.threads.erase _ }) hnull)
      · simp [ScanThread.WillStart] at hstart
    | GDRIVE => exact Or.inl (null_putNull .GDRIVE)
  | scanGoogleDrive =>
    obtain ⟨hrest, hstep, hunrec⟩ := h.of_busy hmem (by simp [ScanThread.Busy])
    have hnull := h.scanning .GDRIVE (Or.inl ⟨_, hmem, rfl⟩)
    have hzero : s.listings + s.contents.length = 0 := by
      unfold activities at hrest
      simp only at hrest
      omega
    have hlisting := Sane.of_drive (s := { s with threads := s.threads.erase _ }) hrest hstep hnull
      (fun type htype => (hunrec type htype).resolve_right fun hstart => by
        cases type <;> simp [ScanThread.WillStart] at hstart)
      (s.listings + 1) s.contents (by omega)
    exact hlisting.cons_postCheck access
  | postCheck =>
    have herase := h.erase_postCheck hmem
    exact herase.other _ _ _ _ _ _ _ _

/-- A source records its result when nothing else is under way. -/
theorem Sane.record_of_resting (h : s.activities = 0)
    (hnull : ∀ type, s.unrecorded type = true → s.Null type) (hstep : ¬ s.ShowsButtons)
    (type : BackupTypes) (result : Option BackupScanResult) :
    (record bucket s type result).Sane := by
  refine Sane.of_resting (s := record bucket s type result) h ?_
    fun hc => absurd (Concluded.showsButtons (s := record bucket s type result) hc) hstep
  intro type' htype'
  obtain ⟨hne, htype'⟩ := unrecorded_record.mp htype'
  exact Null.record (hnull type' htype') hne

/-- A task of Google Drive or the file picker, when it ends, has been the only activity. -/
theorem Sane.ends (h : s.Sane) (listings : ℕ) (contents : List DriveFile) (pickers : ℕ)
    (hless : listings + contents.length + pickers < s.listings + s.contents.length + s.pickers) :
    activities { s with listings := listings, contents := contents, pickers := pickers } = 0 ∧
      ¬ s.ShowsButtons ∧ ∀ type, s.unrecorded type = true → s.Null type := by
  have hle := h.activities_le
  have hpos : 0 < s.activities := by
    unfold activities
    omega
  have hrest : activities
      { s with listings := listings, contents := contents, pickers := pickers } = 0 := by
    unfold activities at hle ⊢
    simp only at hle ⊢
    omega
  have hcheck := accessCheck_of_resting hrest
  have hbusy := not_busy_of_resting hrest
  exact ⟨hrest, h.not_showsButtons hpos, h.null_of_idle hcheck hbusy⟩

theorem Sane.onListing (h : s.Sane) (hpos : 0 < s.listings) (result : DriveListing) :
    (onListing bucket { s with listings := s.listings - 1 } result).Sane := by
  obtain ⟨hrest, hstep, hnull⟩ := h.ends (s.listings - 1) s.contents s.pickers (by omega)
  have hgdrive : s.Null .GDRIVE := h.scanning .GDRIVE (Or.inr (by omega))
  cases result with
  | found file =>
    have hone : s.listings - 1 + (file :: s.contents).length = 1 := by
      unfold activities at hrest
      simp only at hrest
      rw [List.length_cons]
      omega
    exact Sane.of_drive (s := { s with listings := s.listings - 1 }) hrest hstep hgdrive hnull _ _
      hone
  | empty => exact Sane.record_of_resting hrest hnull hstep .GDRIVE none
  | authFailure boxes env =>
    exact Sane.requestAccess (s := { s with
      listings := s.listings - 1, mExpectedBackupsMap := ∅, restoreStep := .REQUESTING_ACCESS })
      hrest (by simp [ShowsButtons, RestoreStep.value]) boxes env
  | failure => exact Sane.record_of_resting hrest hnull hstep .GDRIVE none

theorem Sane.onContent (h : s.Sane) {file : DriveFile} (hmem : file ∈ s.contents)
    (result : DriveContent) :
    (onContent bucket { s with contents := s.contents.erase file } file result).Sane := by
  have hlength := List.length_erase_add_one hmem
  obtain ⟨hrest, hstep, hnull⟩ := h.ends s.listings (s.contents.erase file) s.pickers (by omega)
  cases result with
  | content outcome =>
    cases outcome with
    | ok localCommitIndexMap => exact Sane.record_of_resting hrest hnull hstep .GDRIVE _
    | error message => exact Sane.record_of_resting hrest hnull hstep .GDRIVE _
  | failure => exact Sane.record_of_resting hrest hnull hstep .GDRIVE _

theorem Sane.onPickResult (h : s.Sane) (hpos : 0 < s.pickers) (result : PickResult) :
    (onPickResult bucket { s with pickers := s.pickers - 1 } result).Sane := by
  obtain ⟨hrest, hstep, hnull⟩ := h.ends s.listings s.contents (s.pickers - 1) (by omega)
  have hwait : Sane { s with pickers := s.pickers - 1 } :=
    Sane.of_resting hrest hnull fun hc =>
      absurd (Concluded.showsButtons (s := s) hc) hstep
  cases result with
  | canceled => exact hwait
  | noData => exact hwait
  | picked outcome =>
    refine Sane.handleBackups (s := record bucket _ .LOCAL (localResult outcome)) hrest ?_
    intro type
    by_contra htype
    obtain ⟨hne, htype⟩ := unrecorded_record.mp (by simpa using htype)
    cases type with
    | LOCAL => exact hne rfl
    | GDRIVE =>
      rw [h.picked hpos] at htype
      cases htype

theorem Sane.scan (h : s.Sane) (hinit : s.restoreStep = .INIT) (boxes : Checkboxes)
    (env : AccessEnv) : (s.scan boxes env).Sane := by
  have hrest := h.resting (by simp [ShowsButtons, RestoreStep.value, hinit])
  unfold Screen.scan
  split
  · exact Sane.requestAccess (s := { s with
      restoreStep := .REQUESTING_ACCESS, unrecorded := fun _ => false })
      hrest (by simp [ShowsButtons, RestoreStep.value]) boxes env
  · exact h

theorem Sane.browse (h : s.Sane) (hinit : s.restoreStep = .INIT) : (s.browse bucket).Sane := by
  have hrest := h.resting (by simp [ShowsButtons, RestoreStep.value, hinit])
  have hzero : s.pickers = 0 := by
    unfold activities at hrest
    omega
  have hpicker := Sane.of_picker
    (s := { putNull bucket { s with restoreStep := .SCANNING } .LOCAL with
      unrecorded := fun type => type = .LOCAL })
    hrest (by simp [ShowsButtons, Screen.putNull, RestoreStep.value])
    (null_putNull (s := { s with restoreStep := .SCANNING }) .LOCAL)
    (fun type htype => of_decide_eq_true htype)
  unfold Screen.browse
  rw [hzero]
  exact hpicker

/-- **What one careful event preserves.** -/
theorem Sane.step {s' : Screen} {e : Event} (h : s.Sane) (hc : s.Careful e)
    (hs : s.step bucket e = some s') : s'.Sane := by
  cases e with
  | scan boxes env =>
    obtain ⟨hinit, ⟨⟩⟩ := Option.ite_none_right_eq_some.mp hs
    exact h.scan hinit boxes env
  | browse =>
    obtain ⟨hinit, ⟨⟩⟩ := Option.ite_none_right_eq_some.mp hs
    exact h.browse hinit
  | tryAgain =>
    obtain ⟨⟨hbuttons, -⟩, ⟨⟩⟩ := Option.ite_none_right_eq_some.mp hs
    have hrest := h.resting (List.mem_cons_of_mem 0 hbuttons)
    exact Sane.of_resting hrest
      (h.null_of_idle (accessCheck_of_resting hrest) (not_busy_of_resting hrest))
      (fun hconc => by simp [Concluded] at hconc)
  | confirmRestore fileExists =>
    obtain ⟨-, ⟨⟩⟩ := Option.ite_none_right_eq_some.mp hs
    unfold Screen.restoreBestBackup
    split
    · exact h.other _ _ _ _ _ _ _ _
    · exact h
  | accessCheck =>
    obtain ⟨hcheck, ⟨⟩⟩ := Option.ite_none_right_eq_some.mp hs
    have hle := h.activities_le
    unfold activities at hle
    rw [if_pos hcheck] at hle
    refine Sane.checkAccessRequestIsDone ?_ (h.not_showsButtons ?_)
    · unfold activities
      simp only [Bool.false_eq_true, if_false]
      omega
    · unfold activities
      rw [if_pos hcheck]
      omega
  | permissionResult granted =>
    obtain ⟨-, ⟨⟩⟩ := Option.ite_none_right_eq_some.mp hs
    exact h.other _ _ _ _ _ _ _ _
  | revocation success =>
    obtain ⟨-, ⟨⟩⟩ := Option.ite_none_right_eq_some.mp hs
    split
    · exact h.other _ _ _ _ _ _ _ _
    · exact h.other _ _ _ _ _ _ _ _
  | signInResult success =>
    obtain ⟨-, ⟨⟩⟩ := Option.ite_none_right_eq_some.mp hs
    exact h.other _ _ _ _ _ _ _ _
  | scanThread thread outcome =>
    obtain ⟨hmem, ⟨⟩⟩ := Option.ite_none_right_eq_some.mp hs
    exact h.runThread hmem outcome
  | listing result =>
    obtain ⟨hpos, ⟨⟩⟩ := Option.ite_none_right_eq_some.mp hs
    exact h.onListing hpos result
  | content file result =>
    obtain ⟨hmem, ⟨⟩⟩ := Option.ite_none_right_eq_some.mp hs
    exact h.onContent hmem result
  | scanCheck =>
    obtain ⟨-, ⟨⟩⟩ := Option.ite_none_right_eq_some.mp hs
    have hless : Sane { s with scanChecks := s.scanChecks - 1 } := h.other _ _ _ _ _ _ _ _
    exact hless.checkScanningDone hc
  | pickResult result =>
    obtain ⟨hpos, ⟨⟩⟩ := Option.ite_none_right_eq_some.mp hs
    exact h.onPickResult hpos result
  | restoreThread moved =>
    obtain ⟨-, ⟨⟩⟩ := Option.ite_none_right_eq_some.mp hs
    split
    · exact ⟨h.activities_le, fun hbuttons => by simp [ShowsButtons, RestoreStep.value] at hbuttons,
        h.scanning, h.picked, h.unrecorded, fun hconc => by simp [Concluded] at hconc⟩
    · exact h.other _ _ _ _ _ _ _ _

end Step

/-! ### Runs -/

theorem sane_start : Sane {} :=
  Sane.of_resting rfl (fun _ htype => nomatch htype) (fun _ _ => rfl)

/-- **A concluding step is shown only when every source has recorded its result, and not while
access is being requested, in every run of careful events.** -/
theorem concludesWhenDone {bucket : BackupTypes → ℕ} {s : Screen}
    (h : Reach (step bucket) Careful (· = {}) s) : s.ConcludesWhenDone := by
  have hsane := Reach.invariant (I := Sane) (by
    rintro _ rfl
    exact sane_start) (fun _ _ _ hI hc hs => hI.step hc hs) s h
  intro hc
  exact ⟨hsane.concluded hc, accessCheck_of_resting (hsane.resting hc.showsButtons)⟩

/-- The order in which the enumeration is iterated. -/
def ordinal : BackupTypes → ℕ
  | .LOCAL => 0
  | .GDRIVE => 1

/-- An attempt on both sources, up to the first polling timer; a backup is on the device. -/
def scansBoth : List Event :=
  [.scan ⟨true, true⟩ ⟨true, false⟩, .signInResult true, .accessCheck,
    .scanThread ⟨true, .setRestoreStep⟩ .notFound, .scanThread ⟨true, .putLocal⟩ .notFound,
    .scanThread ⟨true, .scanLocalDevice⟩ (.found ∅ 7), .scanThread ⟨true, .putGdrive⟩ .notFound,
    .scanThread ⟨true, .scanGoogleDrive⟩ .notFound, .scanThread ⟨true, .postCheck⟩ .notFound]

/-- The step and whether access is being requested after these events. -/
def shownAfter (events : List Event) : Option (RestoreStep × Bool) :=
  (run (step ordinal) {} events).map fun s => (s.restoreStep, s.accessCheck)

/-- Nothing is on Google Drive, and the second check concludes. -/
theorem concludesWhenDone_found :
    ∃ s, run (step ordinal) {} (scansBoth ++ [.scanCheck, .listing .empty, .scanCheck]) = some s ∧
      s.restoreStep = .FOUND ∧ s.ConcludesWhenDone := by
  have hshown : shownAfter (scansBoth ++ [.scanCheck, .listing .empty, .scanCheck]) =
      some (.FOUND, false) := by decide +kernel
  have hmeets : Meets (step ordinal) Careful {}
      (scansBoth ++ [.scanCheck, .listing .empty, .scanCheck]) := by decide +kernel
  obtain ⟨s, hrun, hs⟩ := Option.map_eq_some_iff.mp hshown
  exact ⟨s, hrun, congrArg Prod.fst hs, concludesWhenDone (reach_of_meets rfl hmeets hrun)⟩

/-- Google Drive asks for authorization again, and the timer finds the results cleared. -/
theorem not_concludesWhenDone :
    ¬ ∀ s, Reach (step ordinal) anyStep (· = {}) s → s.ConcludesWhenDone := by
  intro h
  have hshown : shownAfter (scansBoth ++
      [.listing (.authFailure ⟨true, true⟩ ⟨true, true⟩), .scanCheck]) =
        some (.NOT_FOUND, true) := by decide +kernel
  obtain ⟨s, hrun, hs⟩ := Option.map_eq_some_iff.mp hshown
  obtain ⟨hstep, hcheck⟩ := Prod.mk.inj hs
  have hconc : s.Concluded := by simp [Concluded, hstep]
  have hfalse := (h s (reach_of_run rfl hrun) hconc).2
  rw [hcheck] at hfalse
  cases hfalse

end Screen

end RestoreChannelsBackupActivity

end EclairMobile
