import EclairMobile.Backups.Verdicts
import EclairMobile.Backups.ConcludesWhenDone

/-!
# Attempts judged after different histories

Two screens on which earlier attempts are completed make the same new attempt.  A scan clears the
results and is judged alike on both.  A file picked with the browse button replaces the result of
the device only, and what is left of Google Drive is judged with it: `judgedAlike_iff` says when
that makes a difference.
-/

namespace EclairMobile

namespace RestoreChannelsBackupActivity

open Lib

/-- A button is pressed. -/
def Event.Press : Event → Prop
  | .scan _ _ | .browse | .tryAgain | .confirmRestore _ => True
  | _ => False

/-- An attempt, with the results that it gets. -/
inductive Attempt
  /-- The scan button; `events` are the answers and timers up to the next button. -/
  | scan (boxes : Checkboxes) (env : AccessEnv) (events : List Event)
      (answers : ∀ e ∈ events, ¬ e.Press)
  | browse (result : PickResult)

def Attempt.events : Attempt → List Event
  | .scan boxes env events _ => .scan boxes env :: events
  | .browse result => [.browse, .pickResult result]

/-- The results after a file has been picked. -/
def picked (bucket : BackupTypes → ℕ) (m : ScanMap) (outcome : ScanOutcome) : ScanMap :=
  put bucket .LOCAL (some (Screen.localResult outcome)) (put bucket .LOCAL none m)

/-- The backup in the picked file. -/
def ScanOutcome.backup : ScanOutcome → Option BackupScanOk
  | .found index modified => some (Screen.decryptFile .LOCAL index modified)
  | _ => none

/-- What the result that an earlier attempt has left of Google Drive does to a picked file. -/
inductive Effect
  | nothing
  | error
  | proposes (backup : BackupScanOk)

inductive HasEffect (bucket : BackupTypes → ℕ) (m : ScanMap) : ScanOutcome → Effect → Prop
  | absent {outcome : ScanOutcome} : m.lookup .GDRIVE = none →
      HasEffect bucket m outcome .nothing
  | notFound {outcome : ScanOutcome} : m.lookup .GDRIVE = some (some none) →
      HasEffect bucket m outcome .nothing
  | unreadable {outcome : ScanOutcome} {message : String} :
      m.lookup .GDRIVE = some (some (some (.failure message))) → HasEffect bucket m outcome .error
  | outranked {index : IndexMap} {modified : Date} {c : BackupScanOk} :
      m.lookup .GDRIVE = some (some (some (.ok c))) →
      ¬ Displaces (picked bucket m (.found index modified))
        (Screen.decryptFile .LOCAL index modified) c →
      HasEffect bucket m (.found index modified) .nothing
  | displaces {index : IndexMap} {modified : Date} {c : BackupScanOk} :
      m.lookup .GDRIVE = some (some (some (.ok c))) →
      Displaces (picked bucket m (.found index modified))
        (Screen.decryptFile .LOCAL index modified) c →
      HasEffect bucket m (.found index modified) (.proposes c)
  | alone {c : BackupScanOk} : m.lookup .GDRIVE = some (some (some (.ok c))) →
      HasEffect bucket m .notFound (.proposes c)

/-- **The results that two histories have left let the attempt be judged alike**: it is a scan, or
nothing readable is picked, or what is left of Google Drive has the same effect on the picked
file. -/
def JudgedAlike (bucket : BackupTypes → ℕ) (m₁ m₂ : ScanMap) : Attempt → Prop
  | .browse (.picked outcome) => (∃ message, outcome = .unreadable message) ∨
      ∃ e, HasEffect bucket m₁ outcome e ∧ HasEffect bucket m₂ outcome e
  | _ => True

namespace Screen

/-- The step shown, and the backup proposed for restore. -/
def shown (s : Screen) : ℕ × Option BackupScanOk :=
  (s.restoreStep.value, if s.restoreStep.value ∈ [4, 5] then s.mBestBackup else none)

/-- Nothing is under way. -/
def Quiet (s : Screen) : Prop :=
  s.accessCheck = false ∧ s.permissionRequests = 0 ∧ s.revocations = 0 ∧ s.signIns = 0 ∧
    s.threads = [] ∧ s.listings = 0 ∧ s.contents = [] ∧ s.scanChecks = 0 ∧ s.pickers = 0 ∧
    s.restores = 0

instance : DecidablePred Quiet := fun _ => inferInstanceAs (Decidable (_ ∧ _))

/-- The earlier attempts are completed. -/
def Completed (s : Screen) : Prop := s.canTryAgain ∧ s.Quiet

instance : DecidablePred Completed := fun _ => inferInstanceAs (Decidable (_ ∧ _))

/-! ### What histories leave in the results -/

/-- Every backup stands under its own type. -/
def Typed (s : Screen) : Prop :=
  ∀ type b, s.mExpectedBackupsMap.lookup type = some (some (some (.ok b))) → b.type = type

/-- The invariant: a null entry of Google Drive is being scanned. -/
structure Recorded (s : Screen) : Prop where
  typed : s.Typed
  pending : s.Null .GDRIVE → s.Scanning .GDRIVE

section Recorded

variable {s : Screen} {bucket : BackupTypes → ℕ}

theorem Recorded.of_cleared (h : s.mExpectedBackupsMap = ∅) : s.Recorded := by
  constructor
  · intro type b hb
    rw [h, AList.lookup_empty] at hb
    cases hb
  · intro hnull
    unfold Null at hnull
    rw [h, AList.lookup_empty] at hnull
    cases hnull

theorem Recorded.startScanning : s.startScanning.Recorded := by
  refine Recorded.of_cleared ?_
  unfold Screen.startScanning
  simp only
  split
  · rfl
  · rfl

theorem Recorded.checkAccessRequestIsDone (h : s.Recorded) :
    s.checkAccessRequestIsDone.Recorded := by
  unfold Screen.checkAccessRequestIsDone
  split
  · exact ⟨h.typed, h.pending⟩
  · exact Recorded.startScanning

theorem Recorded.requestAccess (h : s.Recorded) (boxes : Checkboxes) (env : AccessEnv) :
    (s.requestAccess boxes env).Recorded := by
  unfold Screen.requestAccess
  split
  · refine Recorded.checkAccessRequestIsDone ?_
    rw [askAccess_eq]
    exact ⟨h.typed, h.pending⟩
  · exact Recorded.startScanning

theorem Typed.putNull (h : s.Typed) (type : BackupTypes) : (putNull bucket s type).Typed := by
  intro type' b hb
  unfold Screen.putNull at hb
  by_cases he : type' = type
  · subst he
    rw [lookup_put] at hb
    cases hb
  · rw [lookup_put_ne _ _ _ _ he] at hb
    exact h type' b hb

theorem Typed.record (h : s.Typed) {type : BackupTypes} {result : Option BackupScanResult}
    (hresult : ∀ b, result = some (.ok b) → b.type = type) :
    (record bucket s type result).Typed := by
  intro type' b hb
  unfold Screen.record at hb
  by_cases he : type' = type
  · subst he
    rw [lookup_put] at hb
    exact hresult b (Option.some.inj (Option.some.inj hb))
  · rw [lookup_put_ne _ _ _ _ he] at hb
    exact h type' b hb

theorem type_of_localResult {outcome : ScanOutcome} (b : BackupScanOk)
    (h : localResult outcome = some (.ok b)) : b.type = .LOCAL := by
  cases outcome with
  | notFound => cases h
  | unreadable message => cases h
  | found index modified =>
    cases h
    rfl

theorem null_record_local {result : Option BackupScanResult} :
    (record bucket s .LOCAL result).Null .GDRIVE ↔ s.Null .GDRIVE := by
  unfold Null Screen.record
  rw [lookup_put_ne]
  simp

theorem Recorded.putLocal (h : s.Recorded) : (putNull bucket s .LOCAL).Recorded := by
  refine ⟨h.typed.putNull .LOCAL, fun hnull => h.pending ?_⟩
  unfold Null Screen.putNull at hnull
  rwa [lookup_put_ne _ _ _ _ (by simp)] at hnull

theorem Recorded.recordLocal (h : s.Recorded) (outcome : ScanOutcome) :
    (record bucket s .LOCAL (localResult outcome)).Recorded :=
  ⟨h.typed.record type_of_localResult, fun hnull => h.pending (null_record_local.mp hnull)⟩

theorem Recorded.recordGdrive (h : s.Typed) {result : Option BackupScanResult}
    (hresult : ∀ b, result = some (.ok b) → b.type = .GDRIVE) :
    (record bucket s .GDRIVE result).Recorded := by
  refine ⟨h.record hresult, fun hnull => ?_⟩
  unfold Null Screen.record at hnull
  rw [lookup_put] at hnull
  cases hnull

theorem Recorded.next (h : s.Recorded) (thread thread' : ScanThread)
    (hpc : thread.pc ≠ .scanGoogleDrive) :
    Recorded { s with threads := thread' :: s.threads.erase thread } := by
  refine ⟨h.typed, fun hnull => ?_⟩
  refine (h.pending hnull).imp_left ?_
  rintro ⟨t, ht, htpc⟩
  have hne : t ≠ thread := by
    rintro rfl
    exact hpc htpc
  exact ⟨t, List.mem_cons_of_mem _ ((List.mem_erase_of_ne hne).mpr ht), htpc⟩

theorem Recorded.runThread (h : s.Recorded) (thread : ScanThread) (outcome : ScanOutcome) :
    (s.runThread bucket thread outcome).Recorded := by
  obtain ⟨access, pc⟩ := thread
  cases pc with
  | setRestoreStep =>
    have hnext := h.next ⟨access, .setRestoreStep⟩ ⟨access, .putLocal⟩ (by simp)
    exact ⟨hnext.typed, hnext.pending⟩
  | putLocal =>
    exact (h.next ⟨access, .putLocal⟩ ⟨access, .scanLocalDevice⟩ (by simp)).putLocal
  | scanLocalDevice =>
    exact (h.next ⟨access, .scanLocalDevice⟩ ⟨access, if access then .putGdrive else .postCheck⟩
      (by simp)).recordLocal outcome
  | putGdrive =>
    have htyped : Typed (putNull bucket s .GDRIVE) := Typed.putNull h.typed .GDRIVE
    exact ⟨htyped, fun _ => Or.inl ⟨_, List.mem_cons_self, rfl⟩⟩
  | scanGoogleDrive =>
    refine ⟨h.typed, fun _ => Or.inr ?_⟩
    change 0 < s.listings + 1 + s.contents.length
    omega
  | postCheck =>
    refine ⟨h.typed, fun hnull => (h.pending hnull).imp_left ?_⟩
    rintro ⟨t, ht, htpc⟩
    have hne : t ≠ ⟨access, .postCheck⟩ := by
      rintro rfl
      cases htpc
    exact ⟨t, (List.mem_erase_of_ne hne).mpr ht, htpc⟩

theorem Recorded.handleBackups (h : s.Recorded) : s.handleBackups.Recorded := by
  unfold Screen.handleBackups
  split
  · exact ⟨h.typed, h.pending⟩
  · exact ⟨h.typed, h.pending⟩
  · exact ⟨h.typed, h.pending⟩
  · exact ⟨h.typed, h.pending⟩

theorem Recorded.checkScanningDone (h : s.Recorded) : s.checkScanningDone.Recorded := by
  unfold Screen.checkScanningDone
  simp only
  split
  · exact ⟨h.typed, h.pending⟩
  · split
    · exact ⟨h.typed, h.pending⟩
    · exact Recorded.handleBackups (s := { s with mBestBackup := none }) ⟨h.typed, h.pending⟩

theorem Recorded.onListing (h : s.Typed) (result : DriveListing) :
    (onListing bucket s result).Recorded := by
  cases result with
  | found file =>
    refine ⟨h, fun _ => Or.inr ?_⟩
    change 0 < s.listings + (file :: s.contents).length
    rw [List.length_cons]
    omega
  | empty => exact Recorded.recordGdrive h fun _ hb => nomatch hb
  | authFailure boxes env => exact (Recorded.of_cleared rfl).requestAccess boxes env
  | failure => exact Recorded.recordGdrive h fun _ hb => nomatch hb

theorem Recorded.onContent (h : s.Typed) (file : DriveFile) (result : DriveContent) :
    (onContent bucket s file result).Recorded := by
  cases result with
  | content outcome =>
    cases outcome with
    | error message => exact Recorded.recordGdrive h fun _ hb => nomatch hb
    | ok index =>
      refine Recorded.recordGdrive h fun b hb => ?_
      cases hb
      rfl
  | failure => exact Recorded.recordGdrive h fun _ hb => nomatch hb

theorem Recorded.step (h : s.Recorded) {e : Event} {s' : Screen}
    (hs : step bucket s e = some s') : s'.Recorded := by
  cases e with
  | scan boxes env =>
    obtain ⟨-, ⟨⟩⟩ := Option.ite_none_right_eq_some.mp hs
    unfold Screen.scan
    split
    · exact Recorded.requestAccess (s := { s with
        restoreStep := .REQUESTING_ACCESS, unrecorded := fun _ => false })
        ⟨h.typed, h.pending⟩ boxes env
    · exact h
  | browse =>
    obtain ⟨-, ⟨⟩⟩ := Option.ite_none_right_eq_some.mp hs
    have hput : Recorded (putNull bucket s .LOCAL) := h.putLocal
    exact ⟨hput.typed, hput.pending⟩
  | tryAgain =>
    obtain ⟨-, ⟨⟩⟩ := Option.ite_none_right_eq_some.mp hs
    exact ⟨h.typed, h.pending⟩
  | confirmRestore fileExists =>
    obtain ⟨-, ⟨⟩⟩ := Option.ite_none_right_eq_some.mp hs
    unfold Screen.restoreBestBackup
    split
    · exact ⟨h.typed, h.pending⟩
    · exact h
  | accessCheck =>
    obtain ⟨-, ⟨⟩⟩ := Option.ite_none_right_eq_some.mp hs
    exact h.checkAccessRequestIsDone
  | permissionResult granted =>
    obtain ⟨-, ⟨⟩⟩ := Option.ite_none_right_eq_some.mp hs
    exact ⟨h.typed, h.pending⟩
  | revocation success =>
    obtain ⟨-, ⟨⟩⟩ := Option.ite_none_right_eq_some.mp hs
    split
    · exact ⟨h.typed, h.pending⟩
    · exact ⟨h.typed, h.pending⟩
  | signInResult success =>
    obtain ⟨-, ⟨⟩⟩ := Option.ite_none_right_eq_some.mp hs
    exact ⟨h.typed, h.pending⟩
  | scanThread thread outcome =>
    obtain ⟨-, ⟨⟩⟩ := Option.ite_none_right_eq_some.mp hs
    exact h.runThread thread outcome
  | listing result =>
    obtain ⟨-, ⟨⟩⟩ := Option.ite_none_right_eq_some.mp hs
    exact Recorded.onListing (s := { s with listings := s.listings - 1 }) h.typed result
  | content file result =>
    obtain ⟨-, ⟨⟩⟩ := Option.ite_none_right_eq_some.mp hs
    exact Recorded.onContent (s := { s with contents := s.contents.erase file }) h.typed file result
  | scanCheck =>
    obtain ⟨-, ⟨⟩⟩ := Option.ite_none_right_eq_some.mp hs
    exact Recorded.checkScanningDone (s := { s with scanChecks := s.scanChecks - 1 })
      ⟨h.typed, h.pending⟩
  | pickResult result =>
    obtain ⟨-, ⟨⟩⟩ := Option.ite_none_right_eq_some.mp hs
    have hless : Recorded { s with pickers := s.pickers - 1 } := ⟨h.typed, h.pending⟩
    cases result with
    | canceled => exact hless
    | noData => exact hless
    | picked outcome => exact (hless.recordLocal outcome).handleBackups
  | restoreThread moved =>
    obtain ⟨-, ⟨⟩⟩ := Option.ite_none_right_eq_some.mp hs
    split
    · exact ⟨h.typed, h.pending⟩
    · exact ⟨h.typed, h.pending⟩

theorem recorded_of_reach (h : Reach (Screen.step bucket) anyStep (· = {}) s) : s.Recorded := by
  refine Reach.invariant (I := Recorded) ?_ (fun _ _ _ hI _ hs => hI.step hs) s h
  rintro _ rfl
  exact Recorded.of_cleared rfl

theorem Recorded.not_null (h : s.Recorded) (hquiet : s.Quiet) : ¬ s.Null .GDRIVE := by
  obtain ⟨-, -, -, -, hthreads, hlistings, hcontents, -⟩ := hquiet
  intro hnull
  rcases h.pending hnull with ⟨thread, hmem, -⟩ | hpos
  · rw [hthreads] at hmem
    cases hmem
  · rw [hlistings, hcontents] at hpos
    cases hpos

end Recorded

/-! ### A scan -/

section Scan

variable {s t s' t' : Screen} {bucket : BackupTypes → ℕ}

/-- The screens differ in what earlier attempts have left only, and access is being requested. -/
def SameRequest (s t : Screen) : Prop :=
  (∃ m best, t = { s with mExpectedBackupsMap := m, mBestBackup := best }) ∧
    s.restoreStep.value ∉ [4, 5] ∧ s.threads = [] ∧ s.listings = 0 ∧ s.contents = [] ∧
    s.scanChecks = 0 ∧ s.pickers = 0 ∧ s.restores = 0

/-- The scan starts with the results cleared. -/
theorem SameRequest.checkAccessRequestIsDone (h : SameRequest s t) :
    s.checkAccessRequestIsDone = t.checkAccessRequestIsDone ∨
      SameRequest s.checkAccessRequestIsDone t.checkAccessRequestIsDone := by
  obtain ⟨⟨m, best, rfl⟩, hrest⟩ := h
  by_cases hpending : s.accessPending
  · have hs : s.checkAccessRequestIsDone = { s with accessCheck := true } := if_pos hpending
    have ht : checkAccessRequestIsDone { s with mExpectedBackupsMap := m, mBestBackup := best } =
        { s with accessCheck := true, mExpectedBackupsMap := m, mBestBackup := best } :=
      if_pos hpending
    rw [hs, ht]
    exact Or.inr ⟨⟨m, best, rfl⟩, hrest⟩
  · have hs : s.checkAccessRequestIsDone = startScanning { s with accessCheck := false } :=
      if_neg hpending
    have ht : checkAccessRequestIsDone { s with mExpectedBackupsMap := m, mBestBackup := best } =
        startScanning
          { s with accessCheck := false, mExpectedBackupsMap := m, mBestBackup := best } :=
      if_neg hpending
    rw [hs, ht]
    exact Or.inl rfl

theorem SameRequest.step (h : SameRequest s t) {e : Event} (hpress : ¬ e.Press)
    (hs : step bucket s e = some s') (ht : step bucket t e = some t') :
    s' = t' ∨ SameRequest s' t' := by
  have hrest := h.2
  obtain ⟨⟨m, best, rfl⟩, -, hthreads, hlistings, hcontents, hchecks, hpickers, hrestores⟩ := h
  cases e with
  | scan boxes env => exact absurd trivial hpress
  | browse => exact absurd trivial hpress
  | tryAgain => exact absurd trivial hpress
  | confirmRestore fileExists => exact absurd trivial hpress
  | accessCheck =>
    obtain ⟨-, ⟨⟩⟩ := Option.ite_none_right_eq_some.mp hs
    obtain ⟨-, ⟨⟩⟩ := Option.ite_none_right_eq_some.mp ht
    exact SameRequest.checkAccessRequestIsDone ⟨⟨m, best, rfl⟩, hrest⟩
  | permissionResult granted =>
    obtain ⟨-, ⟨⟩⟩ := Option.ite_none_right_eq_some.mp hs
    obtain ⟨-, ⟨⟩⟩ := Option.ite_none_right_eq_some.mp ht
    exact Or.inr ⟨⟨m, best, rfl⟩, hrest⟩
  | revocation success =>
    obtain ⟨-, ⟨⟩⟩ := Option.ite_none_right_eq_some.mp hs
    obtain ⟨-, ⟨⟩⟩ := Option.ite_none_right_eq_some.mp ht
    cases success with
    | true => exact Or.inr ⟨⟨m, best, rfl⟩, hrest⟩
    | false => exact Or.inr ⟨⟨m, best, rfl⟩, hrest⟩
  | signInResult success =>
    obtain ⟨-, ⟨⟩⟩ := Option.ite_none_right_eq_some.mp hs
    obtain ⟨-, ⟨⟩⟩ := Option.ite_none_right_eq_some.mp ht
    exact Or.inr ⟨⟨m, best, rfl⟩, hrest⟩
  | scanThread thread outcome =>
    obtain ⟨hmem, -⟩ := Option.ite_none_right_eq_some.mp hs
    rw [hthreads] at hmem
    cases hmem
  | listing result =>
    obtain ⟨hpos, -⟩ := Option.ite_none_right_eq_some.mp hs
    rw [hlistings] at hpos
    cases hpos
  | content file result =>
    obtain ⟨hmem, -⟩ := Option.ite_none_right_eq_some.mp hs
    rw [hcontents] at hmem
    cases hmem
  | scanCheck =>
    obtain ⟨hpos, -⟩ := Option.ite_none_right_eq_some.mp hs
    rw [hchecks] at hpos
    cases hpos
  | pickResult result =>
    obtain ⟨hpos, -⟩ := Option.ite_none_right_eq_some.mp hs
    rw [hpickers] at hpos
    cases hpos
  | restoreThread moved =>
    obtain ⟨hpos, -⟩ := Option.ite_none_right_eq_some.mp hs
    rw [hrestores] at hpos
    cases hpos

theorem SameRequest.run {events : List Event} (hpress : ∀ e ∈ events, ¬ e.Press)
    (h : s = t ∨ SameRequest s t) (hs : run (Screen.step bucket) s events = some s')
    (ht : run (Screen.step bucket) t events = some t') : s' = t' ∨ SameRequest s' t' := by
  induction events generalizing s t with
  | nil =>
    cases hs
    cases ht
    exact h
  | cons e events ih =>
    rw [run_cons, Option.bind_eq_some_iff] at hs ht
    obtain ⟨s₁, hs₁, hs⟩ := hs
    obtain ⟨t₁, ht₁, ht⟩ := ht
    refine ih (fun e he => hpress e (List.mem_cons_of_mem _ he)) ?_ hs ht
    rcases h with rfl | h
    · exact Or.inl (Option.some.inj (hs₁.symm.trans ht₁))
    · exact h.step (hpress e List.mem_cons_self) hs₁ ht₁

theorem SameRequest.shown (h : SameRequest s t) : s.shown = t.shown := by
  obtain ⟨⟨m, best, rfl⟩, hstep, -⟩ := h
  unfold Screen.shown
  simp only [if_neg hstep]

/-- Without anything under way, nothing happens until a button is pressed. -/
theorem Quiet.run (h : s.Quiet) {events : List Event} (hpress : ∀ e ∈ events, ¬ e.Press)
    (hs : run (Screen.step bucket) s events = some s') : s' = s := by
  cases events with
  | nil =>
    cases hs
    rfl
  | cons e events =>
    obtain ⟨haccess, hpermissions, hrevocations, hsignIns, hthreads, hlistings, hcontents, hchecks,
      hpickers, hrestores⟩ := h
    have hpress := hpress e List.mem_cons_self
    rw [run_cons, Option.bind_eq_some_iff] at hs
    obtain ⟨s₁, hs₁, -⟩ := hs
    cases e <;> simp [Event.Press, Screen.step, *] at hpress hs₁

/-- Two screens without anything under way differ in what earlier attempts have left. -/
theorem Quiet.eq (hs : s.Quiet) (ht : t.Quiet) (hstep : t.restoreStep = s.restoreStep)
    (hrestoring : t.isRestoring = s.isRestoring) :
    t = { s with
      mExpectedBackupsMap := t.mExpectedBackupsMap, mBestBackup := t.mBestBackup
      accessRequestsMap := t.accessRequestsMap, unrecorded := t.unrecorded } := by
  obtain ⟨_, _, _, _, _, _, _, _, _, _, _, _, _, _, _, _⟩ := s
  obtain ⟨_, _, _, _, _, _, _, _, _, _, _, _, _, _, _, _⟩ := t
  unfold Quiet at hs ht
  simp_all

/-- The scan asks for access in the same way, whatever earlier attempts have left. -/
theorem sameRequest_askAccess (hs : s.Quiet) (ht : t.Quiet)
    (hrestoring : t.isRestoring = s.isRestoring) (boxes : Checkboxes) (env : AccessEnv) :
    SameRequest
      (askAccess { s with restoreStep := .REQUESTING_ACCESS, unrecorded := fun _ => false } boxes
        env)
      (askAccess { t with restoreStep := .REQUESTING_ACCESS, unrecorded := fun _ => false } boxes
        env) := by
  have heq := Quiet.eq (s := { s with restoreStep := .REQUESTING_ACCESS })
    (t := { t with restoreStep := .REQUESTING_ACCESS }) hs ht rfl hrestoring
  have ht' : { t with restoreStep := .REQUESTING_ACCESS, unrecorded := fun _ => false } =
      { s with
        restoreStep := .REQUESTING_ACCESS, unrecorded := fun _ => false
        mExpectedBackupsMap := t.mExpectedBackupsMap, mBestBackup := t.mBestBackup
        accessRequestsMap := t.accessRequestsMap } :=
    congrArg (fun u : Screen => { u with unrecorded := fun _ => false }) heq
  rw [ht']
  refine ⟨⟨t.mExpectedBackupsMap, t.mBestBackup, ?_⟩, ?_⟩
  · rcases boxes with ⟨_ | _, _ | _⟩ <;> rcases env with ⟨_ | _, _ | _⟩ <;> rfl
  · obtain ⟨-, -, -, -, hthreads, hlistings, hcontents, hchecks, hpickers, hrestores⟩ := hs
    rw [askAccess_eq]
    exact ⟨by simp [RestoreStep.value], hthreads, hlistings, hcontents, hchecks, hpickers,
      hrestores⟩

/-- **After any two histories, a scan is judged alike.** -/
theorem shown_scan (hs : s.Completed) (ht : t.Completed) {boxes : Checkboxes} {env : AccessEnv}
    {events : List Event} (hpress : ∀ e ∈ events, ¬ e.Press)
    (hs' : run (Screen.step bucket) s (.tryAgain :: .scan boxes env :: events) = some s')
    (ht' : run (Screen.step bucket) t (.tryAgain :: .scan boxes env :: events) = some t') :
    s'.shown = t'.shown := by
  have hstart : ∀ {u u' : Screen}, u.Completed →
      run (Screen.step bucket) u (.tryAgain :: .scan boxes env :: events) = some u' →
      run (Screen.step bucket) (scan { u with restoreStep := .INIT } boxes env) events =
        some u' := by
    intro u u' hu hrun
    have htry : Screen.step bucket u .tryAgain = some { u with restoreStep := .INIT } :=
      if_pos hu.1
    rw [run_cons, htry, Option.bind_some, run_cons] at hrun
    exact hrun
  have hs' := hstart hs hs'
  have ht' := hstart ht ht'
  unfold Screen.scan at hs' ht'
  by_cases hboxes : boxes.checkLocal ∨ boxes.checkGdrive
  · rw [if_pos hboxes, Screen.requestAccess, if_pos hboxes] at hs' ht'
    have hrequest := sameRequest_askAccess hs.2 ht.2 (ht.1.2.trans hs.1.2.symm) boxes env
    rcases SameRequest.run hpress hrequest.checkAccessRequestIsDone hs' ht' with rfl | h
    · rfl
    · exact h.shown
  · rw [if_neg hboxes] at hs' ht'
    rw [Quiet.run (s := { s with restoreStep := .INIT }) hs.2 hpress hs',
      Quiet.run (s := { t with restoreStep := .INIT }) ht.2 hpress ht']
    rfl

end Scan

/-! ### A picked file -/

section Browse

variable {s t : Screen} {bucket : BackupTypes → ℕ}

/-- What is shown after a search. -/
def verdict : Except FindError (Option BackupScanOk) → ℕ × Option BackupScanOk
  | .ok (some found) => (if found.isFromDevice then 4 else 5, some found)
  | .ok none => (6, none)
  | .error (.unreadableBackup _ _) => (3, none)
  | .error .nullPointer => (0, none)

theorem shown_handleBackups (s : Screen) :
    s.handleBackups.shown = verdict (findBestBackup s.mExpectedBackupsMap) := by
  unfold Screen.handleBackups
  split
  · next found hfound =>
    rw [hfound]
    cases hdevice : found.isFromDevice
    · simp [Screen.shown, verdict, RestoreStep.value, hdevice]
    · simp [Screen.shown, verdict, RestoreStep.value, hdevice]
  · next hfound =>
    rw [hfound]
    rfl
  · next hfound =>
    rw [hfound]
    rfl
  · next hfound =>
    rw [hfound]
    rfl

theorem shown_browse (s : Screen) (result : PickResult) :
    run (step bucket) s (.tryAgain :: (Attempt.browse result).events) = some t →
    t.shown = match result with
      | .picked outcome => verdict (findBestBackup (picked bucket s.mExpectedBackupsMap outcome))
      | _ => (2, none) := by
  intro hrun
  rw [run_cons, Option.bind_eq_some_iff] at hrun
  obtain ⟨s₁, htry, hrun⟩ := hrun
  obtain ⟨-, ⟨⟩⟩ := Option.ite_none_right_eq_some.mp htry
  rw [Attempt.events, run_cons, Option.bind_eq_some_iff] at hrun
  obtain ⟨s₂, hbrowse, hrun⟩ := hrun
  obtain rfl := Option.some.inj hbrowse
  rw [run_cons, Option.bind_eq_some_iff] at hrun
  obtain ⟨s₃, hpick, ⟨⟩⟩ := hrun
  obtain rfl := Option.some.inj hpick
  cases result with
  | canceled => rfl
  | noData => rfl
  | picked outcome => exact shown_handleBackups _

/-- The verdict that the effect gives. -/
def verdictOf (outcome : ScanOutcome) : Effect → ℕ × Option BackupScanOk
  | .nothing => verdict (.ok outcome.backup)
  | .error => (3, none)
  | .proposes backup => verdict (.ok (some backup))

section Picked

variable (bucket) (m : ScanMap) (outcome : ScanOutcome)

theorem lookup_picked_local :
    (picked bucket m outcome).lookup .LOCAL = some (some (localResult outcome)) := by
  unfold picked
  exact lookup_put _ _ _ _

theorem lookup_picked_gdrive :
    (picked bucket m outcome).lookup .GDRIVE = m.lookup .GDRIVE := by
  unfold picked
  rw [lookup_put_ne _ _ _ _ (by simp), lookup_put_ne _ _ _ _ (by simp)]

theorem picked_not_null (h : m.lookup .GDRIVE ≠ some none) (type : BackupTypes) :
    (picked bucket m outcome).lookup type ≠ some none := by
  cases type with
  | LOCAL =>
    rw [lookup_picked_local]
    simp
  | GDRIVE =>
    rw [lookup_picked_gdrive]
    exact h

theorem readable_picked_iff (b : BackupScanOk) : Readable (picked bucket m outcome) b ↔
    outcome.backup = some b ∨ m.lookup .GDRIVE = some (some (some (.ok b))) := by
  have hbackup : localResult outcome = some (.ok b) ↔ outcome.backup = some b := by
    cases outcome <;> simp [localResult, ScanOutcome.backup]
  rw [readable_iff]
  constructor
  · rintro ⟨type, h⟩
    cases type with
    | LOCAL =>
      rw [lookup_picked_local, Option.some_inj, Option.some_inj] at h
      exact Or.inl (hbackup.mp h)
    | GDRIVE =>
      rw [lookup_picked_gdrive] at h
      exact Or.inr h
  · rintro (h | h)
    · exact ⟨.LOCAL, by rw [lookup_picked_local, hbackup.mpr h]⟩
    · exact ⟨.GDRIVE, by rw [lookup_picked_gdrive, h]⟩

variable {bucket m outcome}

theorem picked_not_failure (hlocal : ∀ message, outcome ≠ .unreadable message)
    (hgdrive : ∀ message, m.lookup .GDRIVE ≠ some (some (some (.failure message))))
    (type : BackupTypes) (message : String) :
    (picked bucket m outcome).lookup type ≠ some (some (some (.failure message))) := by
  cases type with
  | LOCAL =>
    rw [lookup_picked_local]
    cases outcome with
    | notFound => simp [localResult]
    | unreadable text => exact absurd rfl (hlocal text)
    | found index modified => simp [localResult]
  | GDRIVE =>
    rw [lookup_picked_gdrive]
    exact hgdrive message

/-- With nothing left of Google Drive, the picked file decides. -/
theorem findBestBackup_picked (hlocal : ∀ message, outcome ≠ .unreadable message)
    (hgdrive : m.lookup .GDRIVE = none ∨ m.lookup .GDRIVE = some (some none)) :
    findBestBackup (picked bucket m outcome) = .ok outcome.backup := by
  have hnull : m.lookup .GDRIVE ≠ some none := by
    rcases hgdrive with h | h <;> simp [h]
  have hfail : ∀ message, m.lookup .GDRIVE ≠ some (some (some (.failure message))) := by
    rcases hgdrive with h | h <;> simp [h]
  have hok : ∀ b, m.lookup .GDRIVE ≠ some (some (some (.ok b))) := by
    rcases hgdrive with h | h <;> simp [h]
  have hread := fun b => (readable_picked_iff bucket m outcome b).trans (or_iff_left (hok b))
  cases hbackup : outcome.backup with
  | none =>
    refine findBestBackup_none (picked_not_null bucket m outcome hnull)
      (picked_not_failure hlocal hfail) fun b hb => ?_
    rw [hread, hbackup] at hb
    cases hb
  | some b =>
    refine findBestBackup_unique (picked_not_null bucket m outcome hnull)
      (picked_not_failure hlocal hfail) fun c => ?_
    rw [hread, hbackup, Option.some_inj, eq_comm]

/-- The effect gives the verdict, unless the picked file is unreadable. -/
theorem verdict_picked {e : Effect} (h : HasEffect bucket m outcome e)
    (hlocal : ∀ message, outcome ≠ .unreadable message)
    (htyped : ∀ c, m.lookup .GDRIVE = some (some (some (.ok c))) → c.type = .GDRIVE) :
    verdict (findBestBackup (picked bucket m outcome)) = verdictOf outcome e := by
  cases h with
  | absent h => rw [findBestBackup_picked hlocal (Or.inl h)]; rfl
  | notFound h => rw [findBestBackup_picked hlocal (Or.inr h)]; rfl
  | unreadable h =>
    obtain ⟨t, text, hfind⟩ := findBestBackup_failure
      (picked_not_null bucket m outcome (by simp [h]))
      ((lookup_picked_gdrive bucket m outcome).trans h)
    rw [hfind]
    rfl
  | @outranked index modified c h hlose =>
    have hb : Readable (picked bucket m (.found index modified))
        (decryptFile .LOCAL index modified) := (readable_picked_iff ..).mpr (Or.inl rfl)
    have hc : Readable (picked bucket m (.found index modified)) c :=
      (readable_picked_iff ..).mpr (Or.inr h)
    have hne : decryptFile .LOCAL index modified ≠ c := by
      intro he
      have htype := htyped c h
      rw [← he] at htype
      cases htype
    rw [findBestBackup_of_not_displaces hb hc hne hlose]
    rfl
  | displaces h hwin =>
    rw [findBestBackup_of_displaces hwin]
    rfl
  | @alone c h =>
    have hread : ∀ d, Readable (picked bucket m .notFound) d ↔ d = c := by
      intro d
      rw [readable_picked_iff, h]
      simp [ScanOutcome.backup, eq_comm]
    rw [findBestBackup_unique (picked_not_null bucket m .notFound (by simp [h]))
      (picked_not_failure hlocal (by simp [h])) hread]
    rfl

theorem exists_hasEffect (hlocal : ∀ message, outcome ≠ .unreadable message)
    (hnull : m.lookup .GDRIVE ≠ some none) : ∃ e, HasEffect bucket m outcome e := by
  rcases h : m.lookup .GDRIVE with _ | _ | _ | text | c
  · exact ⟨_, .absent h⟩
  · exact absurd h hnull
  · exact ⟨_, .notFound h⟩
  · exact ⟨_, .unreadable h⟩
  · cases outcome with
    | notFound => exact ⟨_, .alone h⟩
    | unreadable text => exact absurd rfl (hlocal text)
    | found index modified =>
      by_cases hwin : Displaces (picked bucket m (.found index modified))
          (decryptFile .LOCAL index modified) c
      · exact ⟨_, .displaces h hwin⟩
      · exact ⟨_, .outranked h hwin⟩

theorem type_of_proposes {e : Effect} (h : HasEffect bucket m outcome e)
    (htyped : ∀ c, m.lookup .GDRIVE = some (some (some (.ok c))) → c.type = .GDRIVE) :
    ∀ c, e = .proposes c → c.type = .GDRIVE := by
  rintro c rfl
  cases h with
  | displaces h _ => exact htyped c h
  | alone h => exact htyped c h

theorem type_of_backup {b : BackupScanOk} (h : outcome.backup = some b) : b.type = .LOCAL := by
  cases outcome with
  | notFound => cases h
  | unreadable text => cases h
  | found index modified =>
    cases h
    rfl

theorem verdict_ok (r : Option BackupScanOk) :
    (verdict (.ok r)).1 ≠ 3 ∧ (verdict (.ok r)).2 = r := by
  cases r with
  | none => exact ⟨by simp [verdict], rfl⟩
  | some b =>
    refine ⟨?_, rfl⟩
    change (if b.isFromDevice then 4 else 5) ≠ 3
    split <;> simp

/-- Different effects give different verdicts. -/
theorem verdictOf_injective {e e' : Effect} (he : ∀ c, e = .proposes c → c.type = .GDRIVE)
    (he' : ∀ c, e' = .proposes c → c.type = .GDRIVE)
    (h : verdictOf outcome e = verdictOf outcome e') : e = e' := by
  have hbackup : ∀ c : BackupScanOk, c.type = .GDRIVE → outcome.backup ≠ some c := by
    intro c hc hb
    rw [type_of_backup hb] at hc
    cases hc
  have hok := verdict_ok outcome.backup
  cases e with
  | nothing =>
    cases e' with
    | nothing => rfl
    | error => exact absurd (congrArg Prod.fst h) hok.1
    | proposes c =>
      have hsnd := congrArg Prod.snd h
      exact absurd (hok.2.symm.trans hsnd) (hbackup c (he' c rfl))
  | error =>
    cases e' with
    | nothing => exact absurd (congrArg Prod.fst h).symm hok.1
    | error => rfl
    | proposes c => exact absurd (congrArg Prod.fst h).symm (verdict_ok (some c)).1
  | proposes c =>
    cases e' with
    | nothing =>
      have hsnd := congrArg Prod.snd h
      exact absurd (hok.2.symm.trans hsnd.symm) (hbackup c (he c rfl))
    | error => exact absurd (congrArg Prod.fst h) (verdict_ok (some c)).1
    | proposes d =>
      have hsnd : some c = some d := congrArg Prod.snd h
      rw [Option.some.inj hsnd]

end Picked

theorem verdict_picked_unreadable {m : ScanMap} (hnull : m.lookup .GDRIVE ≠ some none)
    (message : String) :
    verdict (findBestBackup (picked bucket m (.unreadable message))) = (3, none) := by
  obtain ⟨t, text, hfind⟩ := findBestBackup_failure
    (picked_not_null bucket m (.unreadable message) hnull)
    (lookup_picked_local bucket m (.unreadable message))
  rw [hfind]
  rfl

end Browse

/-! ### Two histories -/

/-- **After two histories of completed attempts, the same new attempt shows the same step and
proposes the same backup exactly if it is a scan, or nothing readable is picked, or what is left of
Google Drive has the same effect on the picked file.** -/
theorem judgedAlike_iff {bucket : BackupTypes → ℕ} {s₁ s₂ t₁ t₂ : Screen}
    (h₁ : Reach (step bucket) anyStep (· = {}) s₁) (h₂ : Reach (step bucket) anyStep (· = {}) s₂)
    (hc₁ : s₁.Completed) (hc₂ : s₂.Completed) (a : Attempt)
    (hrun₁ : run (step bucket) s₁ (.tryAgain :: a.events) = some t₁)
    (hrun₂ : run (step bucket) s₂ (.tryAgain :: a.events) = some t₂) :
    t₁.shown = t₂.shown ↔
      JudgedAlike bucket s₁.mExpectedBackupsMap s₂.mExpectedBackupsMap a := by
  cases a with
  | scan boxes env events answers =>
    exact iff_of_true (shown_scan hc₁ hc₂ answers hrun₁ hrun₂) trivial
  | browse result =>
    have hshown₁ := shown_browse s₁ result hrun₁
    have hshown₂ := shown_browse s₂ result hrun₂
    cases result with
    | canceled => exact iff_of_true (hshown₁.trans hshown₂.symm) trivial
    | noData => exact iff_of_true (hshown₁.trans hshown₂.symm) trivial
    | picked outcome =>
      have hrec₁ := recorded_of_reach h₁
      have hrec₂ := recorded_of_reach h₂
      have hnull₁ := hrec₁.not_null hc₁.2
      have hnull₂ := hrec₂.not_null hc₂.2
      by_cases hlocal : ∃ message, outcome = .unreadable message
      · obtain ⟨message, rfl⟩ := hlocal
        refine iff_of_true ?_ (Or.inl ⟨message, rfl⟩)
        exact (hshown₁.trans (verdict_picked_unreadable hnull₁ message)).trans
          (hshown₂.trans (verdict_picked_unreadable hnull₂ message)).symm
      · have hreadable : ∀ message, outcome ≠ .unreadable message := not_exists.mp hlocal
        have htyped₁ := fun c hc => hrec₁.typed .GDRIVE c hc
        have htyped₂ := fun c hc => hrec₂.typed .GDRIVE c hc
        rw [hshown₁, hshown₂]
        constructor
        · intro hsame
          obtain ⟨e₁, he₁⟩ : ∃ e, HasEffect bucket s₁.mExpectedBackupsMap outcome e :=
            exists_hasEffect hreadable hnull₁
          obtain ⟨e₂, he₂⟩ : ∃ e, HasEffect bucket s₂.mExpectedBackupsMap outcome e :=
            exists_hasEffect hreadable hnull₂
          simp only [verdict_picked he₁ hreadable htyped₁, verdict_picked he₂ hreadable htyped₂]
            at hsame
          obtain rfl := verdictOf_injective (type_of_proposes he₁ htyped₁)
            (type_of_proposes he₂ htyped₂) hsame
          exact Or.inr ⟨e₁, he₁, he₂⟩
        · rintro (hmessage | ⟨e, he₁, he₂⟩)
          · exact absurd hmessage hlocal
          · exact (verdict_picked he₁ hreadable htyped₁).trans
              (verdict_picked he₂ hreadable htyped₂).symm

/-- A scan of the device only. -/
def scansLocal (outcome : ScanOutcome) : List Event :=
  [.scan ⟨true, false⟩ ⟨true, false⟩, .scanThread ⟨false, .setRestoreStep⟩ .notFound,
    .scanThread ⟨false, .putLocal⟩ .notFound, .scanThread ⟨false, .scanLocalDevice⟩ outcome,
    .scanThread ⟨false, .postCheck⟩ .notFound, .scanCheck]

/-- The file that is picked. -/
def pickedFile : Attempt := .browse (.picked (.found ∅ 7))

/-- After these events: whether the attempts are completed, whether a result of Google Drive is
left, and the step that the picked file then shows. -/
def pickedAfter (events : List Event) : Option (Bool × Bool × Option ℕ) :=
  (run (step ordinal) {} events).map fun s =>
    (decide s.Completed, (s.mExpectedBackupsMap.lookup .GDRIVE).isSome,
      (run (step ordinal) s (.tryAgain :: pickedFile.events)).map fun t => t.shown.1)

theorem picked_of_pickedAfter (events : List Event) (left : Bool) (n : ℕ)
    (h : pickedAfter events = some (true, left, some n)) : ∃ s t,
      run (step ordinal) {} events = some s ∧ s.Completed ∧
      (s.mExpectedBackupsMap.lookup .GDRIVE).isSome = left ∧
      run (step ordinal) s (.tryAgain :: pickedFile.events) = some t ∧ t.shown.1 = n := by
  obtain ⟨s, hs, hafter⟩ := Option.map_eq_some_iff.mp h
  obtain ⟨hcompleted, hafter⟩ := Prod.mk.inj hafter
  obtain ⟨hleft, hafter⟩ := Prod.mk.inj hafter
  obtain ⟨t, ht, hshown⟩ := Option.map_eq_some_iff.mp hafter
  exact ⟨s, t, hs, of_decide_eq_true hcompleted, hleft, ht, hshown⟩

/-- Google Drive has been scanned in neither history. -/
theorem judgedAlike_local : ∃ s₁ s₂ t₁ t₂,
    run (step ordinal) {} (scansLocal .notFound) = some s₁ ∧
    run (step ordinal) {}
      (scansLocal (.unreadable "MAC stored in civ does not match computed MAC.")) = some s₂ ∧
    run (step ordinal) s₁ (.tryAgain :: pickedFile.events) = some t₁ ∧
    run (step ordinal) s₂ (.tryAgain :: pickedFile.events) = some t₂ ∧ t₁.shown = t₂.shown := by
  obtain ⟨s₁, t₁, hs₁, hc₁, hleft₁, ht₁, -⟩ := picked_of_pickedAfter
    (scansLocal .notFound) false 4 (by decide +kernel)
  obtain ⟨s₂, t₂, hs₂, hc₂, hleft₂, ht₂, -⟩ := picked_of_pickedAfter
    (scansLocal (.unreadable "MAC stored in civ does not match computed MAC.")) false 4
    (by decide +kernel)
  refine ⟨s₁, s₂, t₁, t₂, hs₁, hs₂, ht₁, ht₂, ?_⟩
  have halike : JudgedAlike ordinal s₁.mExpectedBackupsMap s₂.mExpectedBackupsMap pickedFile :=
    Or.inr ⟨.nothing, .absent (by simpa using hleft₁), .absent (by simpa using hleft₂)⟩
  exact (judgedAlike_iff (reach_of_run rfl hs₁) (reach_of_run rfl hs₂) hc₁ hc₂ pickedFile ht₁
    ht₂).mpr halike

/-- Google Drive holds an unreadable backup in one of the histories. -/
theorem not_judgedAlike : ¬ ∀ (s₁ s₂ t₁ t₂ : Screen) (a : Attempt),
    Reach (step ordinal) anyStep (· = {}) s₁ → Reach (step ordinal) anyStep (· = {}) s₂ →
    s₁.Completed → s₂.Completed → run (step ordinal) s₁ (.tryAgain :: a.events) = some t₁ →
    run (step ordinal) s₂ (.tryAgain :: a.events) = some t₂ → t₁.shown = t₂.shown := by
  intro h
  obtain ⟨s₁, t₁, hs₁, hc₁, -, ht₁, h₁⟩ := picked_of_pickedAfter (scansBoth ++
      [.listing (.found ⟨5, true⟩),
        .content ⟨5, true⟩ (.content (.error "MAC stored in civ does not match computed MAC.")),
        .scanCheck])
    true 3 (by decide +kernel)
  obtain ⟨s₂, t₂, hs₂, hc₂, -, ht₂, h₂⟩ := picked_of_pickedAfter
    (scansBoth ++ [.listing .empty, .scanCheck]) true 4 (by decide +kernel)
  have hsame := h s₁ s₂ t₁ t₂ pickedFile (reach_of_run rfl hs₁) (reach_of_run rfl hs₂) hc₁ hc₂ ht₁
    ht₂
  rw [hsame, h₂] at h₁
  cases h₁

end Screen

end RestoreChannelsBackupActivity

end EclairMobile
