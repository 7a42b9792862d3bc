import EclairMobile.Lib.Republished
import EclairMobile.Services.ChannelsBackupWorker

/-!
# From the database of the channels to the backup on the device

The node replaces the `.bak` file and publishes `BackupCompleted`; `NodeSupervisor` schedules the
unique work `ChannelsBackup` for each such message, in place of the work before; a worker reads the
file when it starts and saves it on the device when it ends.  A worker that is replaced while it
runs is not interrupted.
-/

namespace EclairMobile

open Lib AesCbcWithIntegrity LocalBackupHelper

namespace ChannelsBackupWorker

/-- `ListenableWorker.Result`. -/
inductive Result
  | success
  | failure
  deriving DecidableEq, Repr

/-- A worker behind its first checks: whether there is a database, the `.bak` file as it was read,
and the vector that is drawn. -/
structure Worker where
  eclairDBFileExists : Bool
  eclairDBFileBak : Option Bytes
  iv : RandomBytes IV_LENGTH_BYTES
  deriving DecidableEq

/-- The end of `doWork`, with the result, whether the backup was saved on the device, and the
storage.  `drive` is what became of the backup on Google Drive, if there was to be one. -/
def Worker.finish (c : Crypto) (SDK_INT : ℕ) (backupFileName : String) (app : BackupKeys)
    (w : Worker) (env : StorageEnv) (drive : Option Bool) (storage : Storage) :
    Result × Bool × Storage :=
  if w.eclairDBFileExists = false then (.success, false, storage)
  else
    match w.eclairDBFileBak with
    | none => (.failure, false, storage)
    | some eclairDBFile =>
      match getEncryptedBackup c app eclairDBFile w.iv with
      | .error _ => (.failure, false, storage)
      | .ok encryptedBackup =>
        let (localBackupSuccessful, storage) :=
          saveToLocal SDK_INT backupFileName env encryptedBackup storage
        if localBackupSuccessful ∨ drive = some true then
          (.success, localBackupSuccessful, storage)
        else (.failure, localBackupSuccessful, storage)

/-- The unique work `ChannelsBackup`. -/
inductive Work
  | none
  | enqueued
  | running (w : Worker)
  deriving DecidableEq

end ChannelsBackupWorker

open ChannelsBackupWorker

structure BackupWork where
  /-- The `.bak` file of the node. -/
  eclairDBFileBak : Option Bytes
  /-- The messages `BackupCompleted` that were not handled yet. -/
  mailbox : ℕ := 0
  work : Work := .none
  /-- The workers that were replaced while they ran, and still run. -/
  replaced : List Worker := []
  storage : Storage
  /-- History: whether the last save on the device went through. -/
  saved : Bool := false
  results : List Result := []

namespace BackupWork

inductive Event
  /-- The node replaces its `.bak` file and publishes `BackupCompleted`. -/
  | backupCompleted (eclairDBFile : Bytes)
  /-- `NodeSupervisor` handles a message. -/
  | onReceive
  | startWork (eclairDBFileExists : Bool) (iv : RandomBytes IV_LENGTH_BYTES)
  | endWork (env : StorageEnv) (drive : Option Bool)
  | endReplaced (i : ℕ) (env : StorageEnv) (drive : Option Bool)
  /-- The process is killed; work that was running is started over. -/
  | kill

/-- `ExistingWorkPolicy.REPLACE`: the work before is cancelled, and nothing interrupts its
thread. -/
def scheduleWorkASAP (s : BackupWork) : BackupWork :=
  match s.work with
  | .none => { s with work := .enqueued }
  | .enqueued => { s with work := .enqueued }
  | .running w => { s with work := .enqueued, replaced := w :: s.replaced }

section

variable (c : Crypto) (SDK_INT : ℕ) (backupFileName : String) (app : BackupKeys)

/-- The worker comes to its end. -/
def finish (w : Worker) (env : StorageEnv) (drive : Option Bool) (s : BackupWork) : BackupWork :=
  let (result, localBackupSuccessful, storage) :=
    w.finish c SDK_INT backupFileName app env drive s.storage
  { s with
    storage := storage
    saved := localBackupSuccessful
    results := result :: s.results }

def step (s : BackupWork) : Event → Option BackupWork
  | .backupCompleted eclairDBFile =>
    some { s with eclairDBFileBak := some eclairDBFile, mailbox := s.mailbox + 1 }
  | .onReceive =>
    if 0 < s.mailbox then some (scheduleWorkASAP { s with mailbox := s.mailbox - 1 }) else none
  | .startWork eclairDBFileExists iv =>
    match s.work with
    | .enqueued =>
      let w : Worker :=
        { eclairDBFileExists := eclairDBFileExists
          eclairDBFileBak := s.eclairDBFileBak
          iv := iv }
      some { s with work := .running w }
    | .none | .running _ => none
  | .endWork env drive =>
    match s.work with
    | .running w =>
      some (finish c SDK_INT backupFileName app w env drive { s with work := .none })
    | .none | .enqueued => none
  | .endReplaced i env drive =>
    s.replaced[i]?.map fun w =>
      finish c SDK_INT backupFileName app w env drive { s with replaced := s.replaced.eraseIdx i }
  | .kill =>
    let work : Work :=
      match s.work with
      | .running _ => .enqueued
      | .none => .none
      | .enqueued => .enqueued
    some { s with mailbox := 0, work := work, replaced := [] }

end

/-- No work is to come. -/
def AtRest (s : BackupWork) : Prop := s.mailbox = 0 ∧ s.work = .none

instance (s : BackupWork) : Decidable s.AtRest := inferInstanceAs (Decidable (_ ∧ _))

/-- The file is written as a whole, a replaced worker ends only while newer work is to come, and a
kill loses no message. -/
def Careful (SDK_INT : ℕ) (s : BackupWork) : Event → Prop
  | .endWork env _ => SDK_INT < VERSION_CODES_Q ∨ env.truncates = true
  | .endReplaced _ env _ => (SDK_INT < VERSION_CODES_Q ∨ env.truncates = true) ∧ ¬s.AtRest
  | .kill => s.mailbox = 0
  | _ => True

instance (SDK_INT : ℕ) (s : BackupWork) : DecidablePred (s.Careful SDK_INT) := by
  intro event
  unfold Careful
  split <;> infer_instance

/-- A device before its node runs. -/
structure Starts (s : BackupWork) : Prop where
  mailbox : s.mailbox = 0
  work : s.work = .none
  replaced : s.replaced = []
  saved : s.saved = false

/-! ### The backup as a copy of the `.bak` file -/

def task : Work → Job (Option Bytes)
  | .none => .idle
  | .enqueued => .enqueued
  | .running w => .running w.eclairDBFileBak

section

variable {c : Crypto} {SDK_INT : ℕ} {backupFileName : String} {app : BackupKeys}

/-- The published copy is what the scan of the device reads. -/
structure Copies (c : Crypto) (SDK_INT : ℕ) (backupFileName : String) (app : BackupKeys)
    (s : BackupWork) (t : Republished (Option Bytes)) : Prop where
  value : t.value = s.eclairDBFileBak
  notices : t.notices = s.mailbox
  task : t.task = BackupWork.task s.work
  replaced : t.replaced = s.replaced.map Worker.eclairDBFileBak
  saved : s.saved = true → t.published ≠ none
  published : ∀ copy, t.published = some copy → ∃ eclairDBFile, copy = some eclairDBFile ∧
    readLocalBackup c SDK_INT backupFileName app s.storage = .ok (some eclairDBFile)

/-- A save that goes through is one of the file that was read. -/
theorem finish_eq_of_saved {w : Worker} {env : StorageEnv} {drive : Option Bool}
    {storage : Storage}
    (hsaved : (w.finish c SDK_INT backupFileName app env drive storage).2.1 = true) :
    ∃ eclairDBFile, w.eclairDBFileBak = some eclairDBFile ∧
      (doWork c SDK_INT backupFileName app ⟨eclairDBFile, w.iv, env⟩ storage).1 = true ∧
      (w.finish c SDK_INT backupFileName app env drive storage).2.2 =
        (doWork c SDK_INT backupFileName app ⟨eclairDBFile, w.iv, env⟩ storage).2 := by
  unfold Worker.finish at hsaved ⊢
  by_cases hexists : w.eclairDBFileExists = false
  · rw [if_pos hexists] at hsaved
    cases hsaved
  · rw [if_neg hexists] at hsaved ⊢
    rcases hbak : w.eclairDBFileBak with - | eclairDBFile
    · rw [hbak] at hsaved
      cases hsaved
    · refine ⟨eclairDBFile, rfl, ?_⟩
      rw [hbak] at hsaved
      unfold doWork
      dsimp only at hsaved ⊢
      rcases hbytes : getEncryptedBackup c app eclairDBFile w.iv with e | bytes
      · rw [hbytes] at hsaved
        cases hsaved
      · rw [hbytes] at hsaved
        dsimp only at hsaved ⊢
        split_ifs at hsaved ⊢
        · exact ⟨hsaved, rfl⟩
        · exact ⟨hsaved, rfl⟩

theorem readLocalBackup_doWork (hc : c.Lawful) {save : Save} {storage : Storage}
    (hwhole : SDK_INT < VERSION_CODES_Q ∨ save.env.truncates = true)
    (hsaved : (doWork c SDK_INT backupFileName app save storage).1 = true) :
    readLocalBackup c SDK_INT backupFileName app
      (doWork c SDK_INT backupFileName app save storage).2 = .ok (some save.eclairDBFile) := by
  rcases hbytes : getEncryptedBackup c app save.eclairDBFile save.iv with e | bytes
  · unfold doWork at hsaved
    rw [hbytes] at hsaved
    cases hsaved
  · have hstored := stored_doWork hbytes hsaved
    have hcontent : (if SDK_INT ≥ VERSION_CODES_Q then
        streamed save.env ((stored SDK_INT backupFileName storage).getD []) bytes else bytes) =
          bytes := by
      split
      · next hsdk =>
        rcases hwhole with hlt | htruncates
        · omega
        · unfold streamed
          rw [if_pos htruncates]
      · rfl
    rw [hcontent] at hstored
    rw [readLocalBackup_of_stored hstored, map_some_eq_ok_iff]
    exact decryptFile_of_write hc hbytes

variable {s s' : BackupWork} {t : Republished (Option Bytes)}

theorem task_eq_idle_iff {work : Work} : task work = .idle ↔ work = .none := by
  cases work with
  | none => exact iff_of_true rfl rfl
  | enqueued => exact iff_of_false nofun nofun
  | running w => exact iff_of_false nofun nofun

theorem Copies.atRest_iff (h : Copies c SDK_INT backupFileName app s t) :
    t.AtRest ↔ s.AtRest := by
  unfold Republished.AtRest AtRest
  rw [h.notices, h.task, task_eq_idle_iff]

/-- The end of a worker publishes what it has read. -/
theorem Copies.publish (hc : c.Lawful) (h : Copies c SDK_INT backupFileName app s t) (w : Worker)
    {env : StorageEnv} (drive : Option Bool)
    (hwhole : SDK_INT < VERSION_CODES_Q ∨ env.truncates = true) :
    Copies c SDK_INT backupFileName app (s.finish c SDK_INT backupFileName app w env drive)
      (t.publish w.eclairDBFileBak
        (w.finish c SDK_INT backupFileName app env drive s.storage).2.1) := by
  refine ⟨h.value, h.notices, h.task, h.replaced, ?_, ?_⟩
  · intro hsaved
    have hsaved' : (w.finish c SDK_INT backupFileName app env drive s.storage).2.1 = true := hsaved
    unfold Republished.publish
    rw [hsaved']
    exact Option.some_ne_none _
  · intro copy hcopy
    unfold Republished.publish at hcopy
    dsimp only at hcopy
    split at hcopy
    · next hsaved =>
      obtain ⟨eclairDBFile, hbak, hsave, hstorage⟩ := finish_eq_of_saved hsaved
      refine ⟨eclairDBFile, (Option.some.inj hcopy).symm.trans hbak, ?_⟩
      show readLocalBackup c SDK_INT backupFileName app
        (w.finish c SDK_INT backupFileName app env drive s.storage).2.2 = _
      rw [hstorage]
      exact readLocalBackup_doWork hc hwhole hsave
    · cases hcopy

/-- **Every step of the work is a step of the copy.** -/
theorem Copies.step (hc : c.Lawful) (h : Copies c SDK_INT backupFileName app s t) {event : Event}
    (hok : s.Careful SDK_INT event)
    (hs : step c SDK_INT backupFileName app s event = some s') :
    ∃ a t', t.Careful a ∧ t.step a = some t' ∧ Copies c SDK_INT backupFileName app s' t' := by
  cases event with
  | backupCompleted eclairDBFile =>
    obtain rfl := Option.some.inj hs
    refine ⟨.change (some eclairDBFile), _, trivial, rfl, rfl, ?_, h.task, h.replaced, h.saved,
      h.published⟩
    exact congrArg (· + 1) h.notices
  | onReceive =>
    simp only [BackupWork.step] at hs
    split at hs
    · next hpos =>
      obtain rfl := Option.some.inj hs
      have hnotices : 0 < t.notices := h.notices ▸ hpos
      have hless : t.notices - 1 = s.mailbox - 1 := congrArg (· - 1) h.notices
      have htask := h.task
      refine ⟨.notice, _, trivial, if_pos hnotices, ?_⟩
      unfold scheduleWorkASAP
      rcases hwork : s.work with - | - | w
      · rw [hwork] at htask
        rw [htask]
        exact ⟨h.value, hless, rfl, h.replaced, h.saved, h.published⟩
      · rw [hwork] at htask
        rw [htask]
        exact ⟨h.value, hless, rfl, h.replaced, h.saved, h.published⟩
      · rw [hwork] at htask
        rw [htask]
        refine ⟨h.value, hless, rfl, ?_, h.saved, h.published⟩
        exact congrArg (w.eclairDBFileBak :: ·) h.replaced
    · cases hs
  | startWork eclairDBFileExists iv =>
    have htask := h.task
    rcases hwork : s.work with - | - | w
    · simp [BackupWork.step, hwork] at hs
    · simp only [BackupWork.step, hwork] at hs
      obtain rfl := Option.some.inj hs
      rw [hwork] at htask
      refine ⟨.start, { t with task := .running t.value }, trivial, ?_, h.value, h.notices, ?_,
        h.replaced, h.saved, h.published⟩
      · unfold Republished.step
        rw [htask]
        rfl
      · exact congrArg Job.running h.value
    · simp [BackupWork.step, hwork] at hs
  | endWork env drive =>
    have htask := h.task
    rcases hwork : s.work with - | - | w
    · simp [BackupWork.step, hwork] at hs
    · simp [BackupWork.step, hwork] at hs
    · simp only [BackupWork.step, hwork] at hs
      obtain rfl := Option.some.inj hs
      rw [hwork] at htask
      have h0 : Copies c SDK_INT backupFileName app { s with work := .none }
          { t with task := .idle } :=
        ⟨h.value, h.notices, rfl, h.replaced, h.saved, h.published⟩
      refine ⟨.finish (w.finish c SDK_INT backupFileName app env drive s.storage).2.1, _, trivial,
        ?_, h0.publish hc w drive hok⟩
      unfold Republished.step
      rw [htask]
      rfl
  | endReplaced i env drive =>
    obtain ⟨hwhole, hrest⟩ := hok
    obtain ⟨w, hw, rfl⟩ := Option.map_eq_some_iff.mp hs
    have hread : t.replaced[i]? = some w.eclairDBFileBak := by
      rw [h.replaced, List.getElem?_map, hw]
      rfl
    have h0 : Copies c SDK_INT backupFileName app { s with replaced := s.replaced.eraseIdx i }
        { t with replaced := t.replaced.eraseIdx i } := by
      refine ⟨h.value, h.notices, h.task, ?_, h.saved, h.published⟩
      show t.replaced.eraseIdx i = (s.replaced.eraseIdx i).map _
      rw [h.replaced, List.eraseIdx_map]
    refine ⟨.finishReplaced i (w.finish c SDK_INT backupFileName app env drive s.storage).2.1, _,
      fun h' => hrest (h.atRest_iff.mp h'), ?_, h0.publish hc w drive hwhole⟩
    unfold Republished.step
    dsimp only
    rw [hread]
    rfl
  | kill =>
    obtain rfl := Option.some.inj hs
    have hzero : t.notices = 0 := h.notices.trans hok
    have htask := h.task
    refine ⟨.interrupt, _, hzero, rfl, h.value, rfl, ?_, rfl, h.saved, h.published⟩
    rw [htask]
    rcases s.work with - | - | w
    · rfl
    · rfl
    · rfl

/-- **The backup on the device is up to date.**  In every run in which files are written as a whole,
replaced workers end only while newer work is to come, and no kill loses a message: once no work is
to come and the last save went through, the scan of the device reads the database of the last
`BackupCompleted`. -/
theorem backedUp_of_reach (hc : c.Lawful)
    (h : Reach (step c SDK_INT backupFileName app) (Careful SDK_INT) Starts s) (hrest : s.AtRest)
    (hsaved : s.saved = true) :
    ∃ eclairDBFile, s.eclairDBFileBak = some eclairDBFile ∧
      readLocalBackup c SDK_INT backupFileName app s.storage = .ok (some eclairDBFile) := by
  have hstart : ∀ s, Starts s → ∃ t : Republished (Option Bytes),
      (t.AtRest ∧ t.published = none) ∧ Copies c SDK_INT backupFileName app s t := by
    intro s hs
    refine ⟨{ value := s.eclairDBFileBak }, ⟨⟨rfl, rfl⟩, rfl⟩, rfl, hs.mailbox.symm, ?_, ?_, ?_,
      nofun⟩
    · rw [hs.work]
      rfl
    · rw [hs.replaced]
      rfl
    · rw [hs.saved]
      exact nofun
  obtain ⟨t, ht, hcopies⟩ := Reach.simulates hstart
    (fun _ _ _ _ hR hok hs => hR.step hc hok hs) s h
  obtain ⟨copy, hcopy⟩ := Option.ne_none_iff_exists'.mp (hcopies.saved hsaved)
  obtain ⟨eclairDBFile, rfl, hread⟩ := hcopies.published copy hcopy
  refine ⟨eclairDBFile, ?_, hread⟩
  have hfresh : ∀ t : Republished (Option Bytes), t.AtRest ∧ t.published = none → t.Fresh := by
    rintro t ⟨⟨-, hidle⟩, hnone⟩
    refine ⟨fun _ read hread => ?_, fun _ copy hcopy => ?_⟩
    · rw [hidle] at hread
      cases hread
    · rw [hnone] at hcopy
      cases hcopy
  rw [← hcopies.value]
  exact (Republished.published_of_reach hfresh ht (hcopies.atRest_iff.mpr hrest) hcopy).symm

end

/-! ### A worker that is replaced while it runs -/

namespace KnownRun

open Known ChannelsBackupWorker.TwoSaves

def device : BackupWork where
  eclairDBFileBak := none
  storage := ⟨[], none⟩

def truncating : StorageEnv := { truncates := true }

/-- The first worker has read the file, and is replaced. -/
def replacing : List Event :=
  [.backupCompleted content, .onReceive, .startWork true iv, .backupCompleted longContent,
    .onReceive]

def knownStep : BackupWork → Event → Option BackupWork :=
  step saveCrypto 29 "eclair.bkup" keys

/-- Whether no work is to come and the last save went through, and what the scan reads. -/
def scanned (s : BackupWork) : Bool × Except Throwable (Option Bytes) :=
  (decide s.AtRest && s.saved, readLocalBackup saveCrypto 29 "eclair.bkup" keys s.storage)

theorem scanned_inTime : (run knownStep device (replacing ++ [.endReplaced 0 truncating none,
    .startWork true iv2, .endWork truncating none])).map scanned =
      some (true, .ok (some longContent)) := by
  decide +kernel

theorem backedUp_of_reach_replaced : ∃ s : BackupWork, ∃ eclairDBFile,
    s.eclairDBFileBak = some eclairDBFile ∧
      readLocalBackup saveCrypto 29 "eclair.bkup" keys s.storage = .ok (some eclairDBFile) := by
  obtain ⟨s, hs, hscanned⟩ := Option.map_eq_some_iff.mp scanned_inTime
  obtain ⟨hrest, hsaved⟩ := Bool.and_eq_true_iff.mp (Prod.mk.inj hscanned).1
  have hmeets : Meets knownStep (Careful 29) device (replacing ++ [.endReplaced 0 truncating none,
      .startWork true iv2, .endWork truncating none]) := by
    decide +kernel
  have hreach : Reach (step saveCrypto 29 "eclair.bkup" keys) (Careful 29) Starts s :=
    reach_of_meets ⟨rfl, rfl, rfl, rfl⟩ hmeets hs
  exact ⟨s, backedUp_of_reach saveCrypto_lawful hreach (of_decide_eq_true hrest) hsaved⟩

end KnownRun

end BackupWork

end EclairMobile
