import EclairMobile.Services.GoogleDrive

/-!
# Runs of the workers that save to Google Drive

Two workers may both find no backup and create one each, so a name may stand for several files; a
restore takes the most recent one, and that is the backup that was written last.  Where workers do
not overlap, there is one folder, and one file for each name.
-/

namespace EclairMobile

open Lib

namespace GoogleDrive

open RestoreChannelsBackupActivity (decryptFile)

/-- Files as the copies of writes. -/
def versioned : Versioned File Write String Date where
  keyOf := File.name
  stampOf := File.modifiedTime
  key := Write.backupFileName
  stamp := Write.time
  Copies file w := file.name = w.backupFileName ∧ file.modifiedTime = w.time ∧
    file.content = w.encryptedBackup ∧ file.appProperties = some (some w.deviceId)
  keyOf_eq h := h.1
  stampOf_eq h := h.2.1

namespace Backups

section

variable (c : Crypto) (keys : String → BackupKeys)

/-- The bytes encrypt the database file with the keys of the wallet. -/
def Encrypts (backupFileName : String) (eclairDBFile encryptedBackup : Bytes) : Prop :=
  ∃ iv, ChannelsBackupWorker.getEncryptedBackup c (keys backupFileName) eclairDBFile iv =
    .ok encryptedBackup

/-- **Files are encrypted backups, and writes are covered by files.** -/
structure Sound (t₀ : Date) (s : Backups) : Prop where
  ids : (s.drive.files.map File.id).Nodup
  fresh : ∀ file ∈ s.drive.files, file.id < s.drive.nextId
  clock : t₀ ≤ s.drive.now
  recent : ∀ file ∈ s.drive.files, file.modifiedTime ≤ s.drive.now
  updates : ∀ w ∈ s.workers, ∀ id, w.call = .updateFile id →
    ∃ file ∈ s.drive.files, file.id = id ∧ file.name = w.backupFileName
  workers : ∀ w ∈ s.workers, Encrypts c keys w.backupFileName w.eclairDBFile w.encryptedBackup
  writes : ∀ w ∈ s.writes, Encrypts c keys w.backupFileName w.eclairDBFile w.encryptedBackup
  covers : versioned.Covers t₀ s.drive.files s.writes

end

section

variable {c : Crypto} {keys : String → BackupKeys} {testnet : Bool} {t₀ time : Date}
  {s s' : Backups} {w : Worker} {i : ℕ}

theorem mem_goOn {call : Call} (h : w ∈ (s.goOn i call).workers) :
    w ∈ s.workers ∨ ∃ w₀, s.workers[i]? = some w₀ ∧ w = { w₀ with call := call } := by
  obtain ⟨j, hj⟩ := List.mem_iff_getElem?.mp h
  unfold goOn at hj
  dsimp only at hj
  rw [List.getElem?_modify] at hj
  obtain ⟨w₀, hw₀, heq⟩ := Option.map_eq_some_iff.mp hj
  by_cases hij : i = j
  · subst hij
    exact .inr ⟨w₀, hw₀, by simpa using heq.symm⟩
  · rw [if_neg hij] at heq
    exact .inl (heq ▸ List.mem_of_getElem? hw₀)

/-- A worker goes on with a call that is no update, or with that of a file that it may update. -/
theorem Sound.goOn (h : Sound c keys t₀ s) {call : Call}
    (hcall : ∀ id, call = .updateFile id → ∀ w, s.workers[i]? = some w →
      ∃ file ∈ s.drive.files, file.id = id ∧ file.name = w.backupFileName) :
    Sound c keys t₀ (s.goOn i call) := by
  refine ⟨h.ids, h.fresh, h.clock, h.recent, ?_, ?_, h.writes, h.covers⟩
  · intro w hw id hid
    rcases mem_goOn hw with hold | ⟨w₀, hw₀, rfl⟩
    · exact h.updates w hold id hid
    · exact hcall id hid w₀ hw₀
  · intro w hw
    rcases mem_goOn hw with hold | ⟨w₀, hw₀, rfl⟩
    · exact h.workers w hold
    · exact h.workers w₀ (List.mem_of_getElem? hw₀)

theorem Sound.endWork (h : Sound c keys t₀ s) (i : ℕ) : Sound c keys t₀ (s.endWork i) := by
  have hmem : ∀ w ∈ (s.endWork i).workers, w ∈ s.workers := fun w hw =>
    (List.eraseIdx_sublist _ _).subset hw
  exact ⟨h.ids, h.fresh, h.clock, h.recent, fun w hw => h.updates w (hmem w hw),
    fun w hw => h.workers w (hmem w hw), h.writes, h.covers⟩

theorem Sound.createFile (h : Sound c keys t₀ s) (hw : w ∈ s.workers) (folder : ℕ)
    (htime : s.drive.now ≤ time) : Sound c keys t₀ (s.createFile w folder time) := by
  refine ⟨?_, ?_, h.clock.trans htime, ?_, ?_, h.workers, ?_, ?_⟩
  · show ((s.drive.files ++ [_]).map File.id).Nodup
    rw [List.map_append, List.nodup_append]
    refine ⟨h.ids, List.nodup_singleton _, ?_⟩
    intro id hid id' hid'
    obtain ⟨file, hfile, rfl⟩ := List.mem_map.mp hid
    rw [List.mem_singleton.mp hid']
    exact (h.fresh file hfile).ne
  · intro file hfile
    show file.id < s.drive.nextId + 1
    rcases List.mem_append.mp hfile with hold | hnew
    · exact (h.fresh file hold).trans (Nat.lt_succ_self _)
    · rw [List.mem_singleton.mp hnew]
      exact Nat.lt_succ_self _
  · intro file hfile
    rcases List.mem_append.mp hfile with hold | hnew
    · exact (h.recent file hold).trans htime
    · rw [List.mem_singleton.mp hnew]
      exact le_rfl
  · intro w' hw' id hid
    obtain ⟨file, hfile, hids⟩ := h.updates w' hw' id hid
    exact ⟨file, List.mem_append_left _ hfile, hids⟩
  · intro write hwrite
    rcases List.mem_cons.mp hwrite with rfl | hold
    · exact h.workers w hw
    · exact h.writes write hold
  · exact h.covers.append (w := w.write time) ⟨rfl, rfl, rfl, rfl⟩ (h.clock.trans htime)

theorem Sound.updateFile (h : Sound c keys t₀ s) (hw : w ∈ s.workers) {id : ℕ}
    (hcall : w.call = .updateFile id) (htime : s.drive.now ≤ time) :
    Sound c keys t₀ (s.updateFile w id time) := by
  obtain ⟨file, hfile, rfl, hname⟩ := h.updates w hw id hcall
  have hany : (s.drive.files.any fun f => f.id = file.id) = true :=
    List.any_eq_true.mpr ⟨file, hfile, by simp⟩
  unfold Backups.updateFile
  rw [if_pos hany]
  -- the ids and the names stay as they are
  have hsame : ∀ f : File, (if f.id = file.id then updated w time f else f).id = f.id ∧
      (if f.id = file.id then updated w time f else f).name = f.name := by
    intro f
    split
    · exact ⟨rfl, rfl⟩
    · exact ⟨rfl, rfl⟩
  refine ⟨?_, ?_, h.clock.trans htime, ?_, ?_, h.workers, ?_, ?_⟩
  · show ((s.drive.files.map _).map File.id).Nodup
    rw [List.map_map]
    have hids : (File.id ∘ fun f => if f.id = file.id then updated w time f else f) = File.id :=
      funext fun f => (hsame f).1
    rw [hids]
    exact h.ids
  · intro f' hf'
    obtain ⟨f, hf, rfl⟩ := List.mem_map.mp hf'
    rw [(hsame f).1]
    exact h.fresh f hf
  · intro f' hf'
    obtain ⟨f, hf, rfl⟩ := List.mem_map.mp hf'
    show (if f.id = file.id then updated w time f else f).modifiedTime ≤ time
    split
    · exact le_rfl
    · exact (h.recent f hf).trans htime
  · intro w' hw' id hid
    obtain ⟨f, hf, hfid, hfname⟩ := h.updates w' hw' id hid
    refine ⟨_, List.mem_map_of_mem hf, ?_, ?_⟩
    · rw [(hsame f).1]
      exact hfid
    · rw [(hsame f).2]
      exact hfname
  · intro write hwrite
    rcases List.mem_cons.mp hwrite with rfl | hold
    · exact h.workers w hw
    · exact h.writes write hold
  · refine h.covers.replace ?_ ⟨file, hfile, ?_⟩ (h.clock.trans htime)
    · intro f hf
      by_cases hid : f.id = file.id
      · rw [if_pos hid]
        have heq : f = file := List.inj_on_of_nodup_map h.ids hf hfile hid
        subst heq
        exact .inr ⟨⟨hname, rfl, rfl, rfl⟩, rfl, (h.recent f hf).trans htime⟩
      · exact .inl (if_neg hid)
    · rw [if_pos rfl]
      exact ⟨hname, rfl, rfl, rfl⟩

theorem Calls.exists_worker {call : Call} (h : s.Calls i call) :
    ∃ w, s.workers[i]? = some w ∧ w ∈ s.workers ∧ w.call = call := by
  obtain ⟨w, hw, hcall⟩ := Option.map_eq_some_iff.mp h
  exact ⟨w, hw, List.mem_of_getElem? hw, hcall⟩

theorem act_save (backupFileName deviceId : String) (eclairDBFile : Bytes)
    (iv : RandomBytes AesCbcWithIntegrity.IV_LENGTH_BYTES) :
    s.act c keys testnet (.save backupFileName deviceId eclairDBFile iv) = s ∨
      ∃ w : Worker, w.call = .listFolders false ∧
        Encrypts c keys w.backupFileName w.eclairDBFile w.encryptedBackup ∧
        s.act c keys testnet (.save backupFileName deviceId eclairDBFile iv) =
          { s with workers := s.workers ++ [w] } := by
  unfold Backups.act
  dsimp only
  rcases hbytes : ChannelsBackupWorker.getEncryptedBackup c (keys backupFileName) eclairDBFile iv
    with e | encryptedBackup
  · exact .inl rfl
  · exact .inr ⟨_, rfl, ⟨iv, hbytes⟩, rfl⟩

theorem act_createFile (hw : s.workers[i]? = some w) (folder : ℕ) (time : Date) :
    s.act c keys testnet (.createFile i folder time) = (s.createFile w folder time).endWork i := by
  unfold Backups.act
  dsimp only
  rw [hw]

theorem act_updateFile (hw : s.workers[i]? = some w) (id : ℕ) (time : Date) :
    s.act c keys testnet (.updateFile i id time) = (s.updateFile w id time).endWork i := by
  unfold Backups.act
  dsimp only
  rw [hw]

theorem withFolder_ne (creates : Bool) (folder id : ℕ) :
    withFolder creates folder ≠ .updateFile id := by
  cases creates with
  | true => exact nofun
  | false => exact nofun

/-- **Whatever the workers do, a write is not lost.** -/
theorem Sound.act (h : Sound c keys t₀ s) {event : Event} (hen : Enabled testnet s event) :
    Sound c keys t₀ (s.act c keys testnet event) := by
  cases event with
  | save backupFileName deviceId eclairDBFile iv =>
    rcases act_save backupFileName deviceId eclairDBFile iv with heq | ⟨w, hcall, hbytes, heq⟩
    · rw [heq]
      exact h
    · rw [heq]
      refine ⟨h.ids, h.fresh, h.clock, h.recent, ?_, ?_, h.writes, h.covers⟩
      · intro w' hw' id hid
        rcases List.mem_append.mp hw' with hold | hnew
        · exact h.updates w' hold id hid
        · rw [List.mem_singleton.mp hnew, hcall] at hid
          cases hid
      · intro w' hw'
        rcases List.mem_append.mp hw' with hold | hnew
        · exact h.workers w' hold
        · rw [List.mem_singleton.mp hnew]
          exact hbytes
  | listFolders i creates answer =>
    cases answer with
    | nil => exact h.goOn nofun
    | cons folder rest => exact h.goOn fun id hid => absurd hid (withFolder_ne _ _ id)
  | createFolder i creates time =>
    obtain ⟨-, htime⟩ := hen
    have h0 : Sound c keys t₀ { s with drive := { s.drive with
        folders := s.drive.folders ++ [{ id := s.drive.nextId, name := BACKUP_FOLDER_NAME testnet }]
        nextId := s.drive.nextId + 1
        now := time } } :=
      ⟨h.ids, fun file hfile => (h.fresh file hfile).trans (Nat.lt_succ_self _),
        h.clock.trans htime, fun file hfile => (h.recent file hfile).trans htime, h.updates,
        h.workers, h.writes, h.covers⟩
    exact h0.goOn fun id hid => absurd hid (withFolder_ne _ _ id)
  | listFiles i folder answer =>
    obtain ⟨-, hall⟩ := hen
    cases answer with
    | nil => exact h.goOn nofun
    | cons file rest =>
      refine h.goOn ?_
      rintro id hid w hw
      obtain rfl := Call.updateFile.inj hid
      -- the file is one of those that the worker asked for
      have hanswer : Answers (listBackups w.backupFileName folder) s.drive.files
          (file :: rest) := by
        rw [hw] at hall
        exact of_decide_eq_true hall
      have hmem : file ∈ s.drive.files.filter (listBackups w.backupFileName folder) :=
        hanswer.1.mem_iff.mp (List.mem_cons_self ..)
      obtain ⟨hold, hquery⟩ := List.mem_filter.mp hmem
      refine ⟨file, hold, rfl, ?_⟩
      exact of_decide_eq_true (Bool.and_eq_true_iff.mp hquery).1
  | createFile i folder time =>
    obtain ⟨hcalls, htime⟩ := hen
    obtain ⟨w, hw, hmem, -⟩ := hcalls.exists_worker
    rw [act_createFile hw]
    exact (h.createFile hmem folder htime).endWork i
  | updateFile i id time =>
    obtain ⟨hcalls, htime⟩ := hen
    obtain ⟨w, hw, hmem, hcall⟩ := hcalls.exists_worker
    rw [act_updateFile hw]
    exact (h.updateFile hmem hcall htime).endWork i
  | fail i => exact h.endWork i

/-- A Drive with old backups, before any worker is started. -/
structure Starts (t₀ : Date) (s : Backups) : Prop where
  ids : (s.drive.files.map File.id).Nodup
  fresh : ∀ file ∈ s.drive.files, file.id < s.drive.nextId
  clock : s.drive.now = t₀
  old : ∀ file ∈ s.drive.files, file.modifiedTime < t₀
  workers : s.workers = []
  writes : s.writes = []

theorem Starts.sound (h : Starts t₀ s) : Sound c keys t₀ s := by
  refine ⟨h.ids, h.fresh, h.clock.ge, ?_, ?_, ?_, ?_, ?_⟩
  · intro file hfile
    rw [h.clock]
    exact (h.old file hfile).le
  · rw [h.workers]
    exact nofun
  · rw [h.workers]
    exact nofun
  · rw [h.writes]
    exact nofun
  · rw [h.writes]
    exact Versioned.Covers.of_old h.old

theorem isFromDevice_iff {file : File} {device : String}
    (h : file.appProperties = some (some device)) (currentDeviceId : String) :
    isFromDevice currentDeviceId file = true ↔ currentDeviceId = device := by
  unfold isFromDevice
  simp [h, eq_comm]

end

/-! ### Two devices save at the same time -/

namespace KnownRun

open Known

def keysOf (_ : String) : BackupKeys := keys

def empty : Backups where
  drive := { now := 0 }

/-- A restored wallet on a second device: both workers create a folder and a file. -/
def racing : List Event :=
  [.save "eclair.bkup" "phone" content iv,
    .save "eclair.bkup" "tablet" ChannelsBackupWorker.TwoSaves.longContent
      ChannelsBackupWorker.TwoSaves.iv2,
    .listFolders 0 false [], .listFolders 1 false [],
    .createFolder 0 false 1, .createFolder 1 false 2, .listFiles 0 0 [], .listFiles 1 1 [],
    .listFolders 0 true [⟨1, "eclair-mobile"⟩, ⟨0, "eclair-mobile"⟩],
    .listFolders 1 true [⟨0, "eclair-mobile"⟩, ⟨1, "eclair-mobile"⟩],
    .createFile 0 1 3, .createFile 0 0 4]

theorem run_racing : (run (step ChannelsBackupWorker.TwoSaves.saveCrypto keysOf false)
      empty racing).map (fun s => (s.writes.map fun w => (w.backupFileName, w.deviceId),
        decide (Answers (listBackupsLegacy "eclair.bkup") s.drive.files s.drive.files.reverse))) =
    some ([("eclair.bkup", "tablet"), ("eclair.bkup", "phone")], true) := by
  decide +kernel

end KnownRun

section

variable {c : Crypto} {keys : String → BackupKeys} {testnet : Bool} {t₀ time : Date}
  {s s' : Backups} {w : Worker} {i : ℕ}

/-! ### Workers that do not overlap -/

/-- A worker is started when no other one is at work. -/
def Alone (s : Backups) : Event → Prop
  | .save _ _ _ _ => s.workers = []
  | _ => True

instance (s : Backups) : DecidablePred (Alone s)
  | .save _ _ _ _ => inferInstanceAs (Decidable (s.workers = []))
  | .listFolders _ _ _ | .createFolder _ _ _ | .listFiles _ _ _ | .createFile _ _ _
  | .updateFile _ _ _ | .fail _ => inferInstanceAs (Decidable True)

/-- **One folder, and one file for each name.** -/
structure OneEach (testnet : Bool) (drive : Drive) : Prop where
  folders : drive.folders = [] ∨ ∃ id, drive.folders = [⟨id, BACKUP_FOLDER_NAME testnet⟩]
  parents : ∀ file ∈ drive.files, ∃ name, drive.folders = [⟨file.parent, name⟩]
  names : (drive.files.map File.name).Nodup

/-- What a worker knows of the Drive. -/
def Fits (drive : Drive) (w : Worker) : Prop :=
  match w.call with
  | .listFolders creates => creates = true → ∀ file ∈ drive.files, file.name ≠ w.backupFileName
  | .createFolder _ => drive.folders = []
  | .listFiles folder => ∃ name, drive.folders = [⟨folder, name⟩]
  | .createFile folder => (∃ name, drive.folders = [⟨folder, name⟩]) ∧
      ∀ file ∈ drive.files, file.name ≠ w.backupFileName
  | .updateFile _ => True

/-- At most one worker, and what it knows is true. -/
structure Single (testnet : Bool) (s : Backups) : Prop where
  workers : s.workers.length ≤ 1
  drive : OneEach testnet s.drive
  fits : ∀ w ∈ s.workers, Fits s.drive w

/-- A folder that is found is the one that there is. -/
theorem OneEach.folder_of_answer {drive : Drive} (h : OneEach testnet drive) {folder : Folder}
    {rest : List Folder} (hanswer : (folder :: rest).Perm
      (drive.folders.filter fun f => f.name = BACKUP_FOLDER_NAME testnet)) :
    ∃ name, drive.folders = [⟨folder.id, name⟩] := by
  have hmem := (List.mem_filter.mp (hanswer.subset (List.mem_cons_self ..))).1
  rcases h.folders with hnil | ⟨id, hone⟩
  · rw [hnil] at hmem
    exact absurd hmem List.not_mem_nil
  · rw [hone] at hmem ⊢
    rw [List.mem_singleton.mp hmem]
    exact ⟨_, rfl⟩

theorem OneEach.folders_eq_nil {drive : Drive} (h : OneEach testnet drive)
    (hanswer : ([] : List Folder).Perm
      (drive.folders.filter fun f => f.name = BACKUP_FOLDER_NAME testnet)) :
    drive.folders = [] := by
  rcases h.folders with hnil | ⟨id, hone⟩
  · exact hnil
  · rw [hone] at hanswer
    simp at hanswer

theorem OneEach.files_eq_nil {drive : Drive} (h : OneEach testnet drive)
    (hnil : drive.folders = []) : drive.files = [] := by
  apply List.eq_nil_iff_forall_not_mem.mpr
  intro file hfile
  obtain ⟨name, hone⟩ := h.parents file hfile
  rw [hnil] at hone
  cases hone

/-- A file that is not found in the folder is nowhere. -/
theorem OneEach.name_ne_of_answer {drive : Drive} (h : OneEach testnet drive) {folder : ℕ}
    {name backupFileName : String} (hone : drive.folders = [⟨folder, name⟩])
    (hanswer : Answers (listBackups backupFileName folder) drive.files []) :
    ∀ file ∈ drive.files, file.name ≠ backupFileName := by
  intro file hfile hname
  obtain ⟨name', hparent⟩ := h.parents file hfile
  have hid : file.parent = folder :=
    (Folder.mk.inj (List.cons.inj (hparent.symm.trans hone)).1).1
  have hquery : file ∈ drive.files.filter (listBackups backupFileName folder) :=
    List.mem_filter.mpr ⟨hfile, by simp [listBackups, hname, hid]⟩
  exact List.not_mem_nil (hanswer.1.mem_iff.mpr hquery)

theorem Single.only (h : Single testnet s) (hw : s.workers[i]? = some w) :
    s.workers = [w] ∧ i = 0 := by
  obtain ⟨w₀, hone⟩ := List.length_eq_one_iff.mp
    (le_antisymm h.workers (List.length_pos_of_mem (List.mem_of_getElem? hw)))
  obtain ⟨hlt, -⟩ := List.getElem?_eq_some_iff.mp hw
  rw [hone] at hw hlt ⊢
  have hi : i = 0 := Nat.lt_one_iff.mp hlt
  subst hi
  exact ⟨congrArg (fun w => [w]) (Option.some.inj hw), rfl⟩

theorem Single.goOn (h : Single testnet s) (hw : s.workers[i]? = some w) {drive : Drive}
    (hdrive : OneEach testnet drive) {call : Call} (hfits : Fits drive { w with call := call }) :
    Single testnet (Backups.goOn i call { s with drive := drive }) := by
  obtain ⟨hone, rfl⟩ := h.only hw
  have hworkers : (Backups.goOn 0 call { s with drive := drive }).workers =
      [{ w with call := call }] := by
    show s.workers.modify 0 _ = _
    rw [hone]
    rfl
  refine ⟨?_, hdrive, ?_⟩
  · rw [hworkers]
    exact le_rfl
  · intro w' hw'
    rw [hworkers] at hw'
    rw [List.mem_singleton.mp hw']
    exact hfits

theorem Single.endLast (h : Single testnet s) (hw : s.workers[i]? = some w) {drive : Drive}
    {writes : List Write} (hdrive : OneEach testnet drive) :
    Single testnet (Backups.endWork i { s with drive := drive, writes := writes }) := by
  obtain ⟨hone, rfl⟩ := h.only hw
  have hworkers : (Backups.endWork 0 { s with drive := drive, writes := writes }).workers = [] := by
    show s.workers.eraseIdx 0 = _
    rw [hone]
    rfl
  refine ⟨?_, hdrive, ?_⟩
  · rw [hworkers]
    exact Nat.zero_le 1
  · rw [hworkers]
    exact nofun

theorem Single.endWork (h : Single testnet s) (i : ℕ) : Single testnet (s.endWork i) := by
  refine ⟨?_, h.drive, ?_⟩
  · exact (List.eraseIdx_sublist _ _).length_le.trans h.workers
  · exact fun w hw => h.fits w ((List.eraseIdx_sublist _ _).subset hw)

theorem OneEach.createFolder {drive : Drive} (h : OneEach testnet drive)
    (hnil : drive.folders = []) :
    OneEach testnet { drive with
      folders := drive.folders ++ [{ id := drive.nextId, name := BACKUP_FOLDER_NAME testnet }]
      nextId := drive.nextId + 1
      now := time } := by
  refine ⟨.inr ⟨drive.nextId, ?_⟩, ?_, h.names⟩
  · show drive.folders ++ _ = _
    rw [hnil]
    rfl
  · show ∀ file ∈ drive.files, _
    rw [h.files_eq_nil hnil]
    exact nofun

theorem Single.act (h : Single testnet s) {event : Event} (hen : Enabled testnet s event)
    (hok : Alone s event) : Single testnet (s.act c keys testnet event) := by
  cases event with
  | save backupFileName deviceId eclairDBFile iv =>
    have hnone : s.workers = [] := hok
    rcases act_save backupFileName deviceId eclairDBFile iv with heq | ⟨w, hcall, -, heq⟩
    · rw [heq]
      exact h
    · rw [heq]
      refine ⟨?_, h.drive, ?_⟩
      · show (s.workers ++ [_]).length ≤ 1
        rw [hnone]
        exact le_rfl
      · intro w' hw'
        rcases List.mem_append.mp hw' with hold | hnew
        · exact h.fits w' hold
        · rw [List.mem_singleton.mp hnew]
          unfold Fits
          rw [hcall]
          exact nofun
  | listFolders i creates answer =>
    obtain ⟨hcalls, hanswer⟩ := hen
    obtain ⟨w, hw, hmem, hcall⟩ := hcalls.exists_worker
    have hfits : creates = true → ∀ file ∈ s.drive.files, file.name ≠ w.backupFileName := by
      have hf := h.fits w hmem
      unfold Fits at hf
      rw [hcall] at hf
      exact hf
    cases answer with
    | nil => exact h.goOn hw h.drive (h.drive.folders_eq_nil hanswer)
    | cons folder rest =>
      have hfolder := h.drive.folder_of_answer hanswer
      refine h.goOn hw h.drive ?_
      cases creates with
      | false => exact hfolder
      | true => exact ⟨hfolder, hfits rfl⟩
  | createFolder i creates time =>
    obtain ⟨hcalls, -⟩ := hen
    obtain ⟨w, hw, hmem, hcall⟩ := hcalls.exists_worker
    have hnil : s.drive.folders = [] := by
      have hf := h.fits w hmem
      unfold Fits at hf
      rw [hcall] at hf
      exact hf
    refine h.goOn hw (h.drive.createFolder hnil) ?_
    have hone : ∃ name, s.drive.folders ++
        [{ id := s.drive.nextId, name := BACKUP_FOLDER_NAME testnet }] =
        [(⟨s.drive.nextId, name⟩ : Folder)] := by
      rw [hnil]
      exact ⟨_, rfl⟩
    cases creates with
    | false => exact hone
    | true =>
      refine ⟨hone, ?_⟩
      show ∀ file ∈ s.drive.files, _
      rw [h.drive.files_eq_nil hnil]
      exact nofun
  | listFiles i folder answer =>
    obtain ⟨hcalls, hall⟩ := hen
    obtain ⟨w, hw, hmem, hcall⟩ := hcalls.exists_worker
    have hfolder : ∃ name, s.drive.folders = [⟨folder, name⟩] := by
      have hf := h.fits w hmem
      unfold Fits at hf
      rw [hcall] at hf
      exact hf
    have hanswer : Answers (listBackups w.backupFileName folder) s.drive.files answer := by
      rw [hw] at hall
      exact of_decide_eq_true hall
    cases answer with
    | nil =>
      obtain ⟨name, hone⟩ := hfolder
      exact h.goOn hw h.drive fun _ => h.drive.name_ne_of_answer hone hanswer
    | cons file rest => exact h.goOn hw h.drive trivial
  | createFile i folder time =>
    obtain ⟨hcalls, -⟩ := hen
    obtain ⟨w, hw, hmem, hcall⟩ := hcalls.exists_worker
    obtain ⟨⟨name, hone⟩, hnames⟩ : (∃ name, s.drive.folders = [⟨folder, name⟩]) ∧
        ∀ file ∈ s.drive.files, file.name ≠ w.backupFileName := by
      have hf := h.fits w hmem
      unfold Fits at hf
      rw [hcall] at hf
      exact hf
    rw [act_createFile hw]
    refine h.endLast hw ⟨h.drive.folders, ?_, ?_⟩
    · intro file hfile
      rcases List.mem_append.mp hfile with hold | hnew
      · exact h.drive.parents file hold
      · rw [List.mem_singleton.mp hnew]
        exact ⟨name, hone⟩
    · show ((s.drive.files ++ [_]).map File.name).Nodup
      rw [List.map_append, List.nodup_append]
      refine ⟨h.drive.names, List.nodup_singleton _, ?_⟩
      intro n hn n' hn'
      obtain ⟨file, hfile, rfl⟩ := List.mem_map.mp hn
      rw [List.mem_singleton.mp hn']
      exact hnames file hfile
  | updateFile i id time =>
    obtain ⟨hcalls, -⟩ := hen
    obtain ⟨w, hw, -, -⟩ := hcalls.exists_worker
    rw [act_updateFile hw]
    unfold Backups.updateFile
    split
    · -- an update keeps the name and the folder
      refine h.endLast hw ⟨h.drive.folders, ?_, ?_⟩
      · intro f' hf'
        obtain ⟨f, hf, rfl⟩ := List.mem_map.mp hf'
        have hsame : (if f.id = id then updated w time f else f).parent = f.parent := by
          split
          · rfl
          · rfl
        rw [hsame]
        exact h.drive.parents f hf
      · show ((s.drive.files.map _).map File.name).Nodup
        rw [List.map_map]
        have hsame : (File.name ∘ fun f => if f.id = id then updated w time f else f) =
            File.name := by
          funext f
          show (if f.id = id then updated w time f else f).name = f.name
          split
          · rfl
          · rfl
        rw [hsame]
        exact h.drive.names
    · exact h.endWork i
  | fail i => exact h.endWork i

/-- Every file is the copy of the last write under its name. -/
def LastWritten (s : Backups) : Prop :=
  ∀ file ∈ s.drive.files, ∃ w, s.writes.find? (fun w => w.backupFileName = file.name) = some w ∧
    versioned.Copies file w

/-- A write leaves the files of other names alone. -/
theorem LastWritten.other (h : s.LastWritten) {file : File} (hfile : file ∈ s.drive.files)
    {write : Write} (hne : file.name ≠ write.backupFileName) :
    ∃ w, (write :: s.writes).find? (fun w => w.backupFileName = file.name) = some w ∧
      versioned.Copies file w := by
  obtain ⟨w, hw, hcopies⟩ := h file hfile
  refine ⟨w, ?_, hcopies⟩
  rw [List.find?_cons_of_neg]
  · exact hw
  · simpa using hne.symm

theorem LastWritten.act (h : s.LastWritten) (hsound : Sound c keys t₀ s)
    (hsingle : Single testnet s) {event : Event} (hen : Enabled testnet s event) :
    (s.act c keys testnet event).LastWritten := by
  cases event with
  | save backupFileName deviceId eclairDBFile iv =>
    rcases act_save backupFileName deviceId eclairDBFile iv with heq | ⟨w, -, -, heq⟩
    · rw [heq]
      exact h
    · rw [heq]
      exact h
  | listFolders i creates answer =>
    cases answer with
    | nil => exact h
    | cons folder rest => exact h
  | createFolder i creates time => exact h
  | listFiles i folder answer =>
    cases answer with
    | nil => exact h
    | cons file rest => exact h
  | createFile i folder time =>
    obtain ⟨hcalls, -⟩ := hen
    obtain ⟨w, hw, hmem, hcall⟩ := hcalls.exists_worker
    have hnames : ∀ file ∈ s.drive.files, file.name ≠ w.backupFileName := by
      have hf := hsingle.fits w hmem
      unfold Fits at hf
      rw [hcall] at hf
      exact hf.2
    rw [act_createFile hw]
    intro file hfile
    rcases List.mem_append.mp hfile with hold | hnew
    · exact h.other hold (hnames file hold)
    · rw [List.mem_singleton.mp hnew]
      refine ⟨w.write time, ?_, rfl, rfl, rfl, rfl⟩
      exact List.find?_cons_of_pos (decide_eq_true rfl)
  | updateFile i id time =>
    obtain ⟨hcalls, -⟩ := hen
    obtain ⟨w, hw, hmem, hcall⟩ := hcalls.exists_worker
    obtain ⟨file, hfile, rfl, hname⟩ := hsound.updates w hmem id hcall
    have hany : (s.drive.files.any fun f => f.id = file.id) = true :=
      List.any_eq_true.mpr ⟨file, hfile, by simp⟩
    rw [act_updateFile hw]
    unfold Backups.updateFile
    rw [if_pos hany]
    intro f' hf'
    obtain ⟨f, hf, rfl⟩ := List.mem_map.mp hf'
    by_cases hid : f.id = file.id
    · have heq : f = file := List.inj_on_of_nodup_map hsound.ids hf hfile hid
      subst heq
      rw [if_pos rfl]
      refine ⟨w.write time, ?_, hname, rfl, rfl, rfl⟩
      exact List.find?_cons_of_pos (decide_eq_true hname.symm)
    · rw [if_neg hid]
      -- another file has another name
      have hne : f.name ≠ w.backupFileName := by
        intro heq
        apply hid
        rw [List.inj_on_of_nodup_map hsingle.drive.names hf hfile (heq.trans hname.symm)]
      exact h.other hf hne
  | fail i => exact h

/-- A Drive that was never used. -/
structure Unused (s : Backups) : Prop where
  folders : s.drive.folders = []
  files : s.drive.files = []
  workers : s.workers = []
  writes : s.writes = []

theorem Unused.sound (h : Unused s) : Sound c keys s.drive.now s := by
  apply Starts.sound
  refine ⟨?_, ?_, rfl, ?_, h.workers, h.writes⟩
  · rw [h.files]
    exact List.nodup_nil
  · rw [h.files]
    exact nofun
  · rw [h.files]
    exact nofun

theorem Unused.single (h : Unused s) : Single testnet s := by
  refine ⟨?_, ⟨.inl h.folders, ?_, ?_⟩, ?_⟩
  · rw [h.workers]
    exact Nat.zero_le 1
  · rw [h.files]
    exact nofun
  · rw [h.files]
    exact List.nodup_nil
  · rw [h.workers]
    exact nofun

/-- **Where no two workers overlap, a backup is the one that was saved last.**  Calls may fail at
any point, and a folder may be left without files; still there is one folder at most, all files are
in it, a name stands for one file, and this file decrypts to the database that was written last
under its name. -/
theorem single_of_reach (hc : c.Lawful)
    (h : Reach (step c keys testnet) Alone Unused s) :
    s.drive.folders.length ≤ 1 ∧ (s.drive.files.map File.name).Nodup ∧
      ∀ file ∈ s.drive.files, (∃ name, s.drive.folders = [⟨file.parent, name⟩]) ∧
        ∃ w, s.writes.find? (fun w => w.backupFileName = file.name) = some w ∧
          decryptFile c (keys file.name) file.content = .ok w.eclairDBFile := by
  have hinv : (∃ t₀, Sound c keys t₀ s) ∧ Single testnet s ∧ s.LastWritten := by
    refine Reach.invariant (I := fun s => (∃ t₀, Sound c keys t₀ s) ∧ Single testnet s ∧
      s.LastWritten) ?_ ?_ s h
    · intro s hs
      refine ⟨⟨_, hs.sound⟩, hs.single, ?_⟩
      unfold LastWritten
      rw [hs.files]
      exact nofun
    · rintro s event s' ⟨⟨t₀, hsound⟩, hsingle, hlast⟩ hok hstep
      obtain ⟨hen, rfl⟩ := (step_eq_some_iff c keys testnet).mp hstep
      exact ⟨⟨t₀, hsound.act hen⟩, hsingle.act hen hok, hlast.act hsound hsingle hen⟩
  obtain ⟨⟨t₀, hsound⟩, hsingle, hlast⟩ := hinv
  refine ⟨?_, hsingle.drive.names, ?_⟩
  · rcases hsingle.drive.folders with hnil | ⟨id, hone⟩
    · rw [hnil]
      exact Nat.zero_le 1
    · rw [hone]
      exact le_rfl
  · intro file hfile
    obtain ⟨w, hw, hname, -, hcontent, -⟩ := hlast file hfile
    refine ⟨hsingle.drive.parents file hfile, w, hw, ?_⟩
    obtain ⟨iv, hbytes⟩ := hsound.writes w (List.mem_of_find?_eq_some hw)
    rw [hname, hcontent]
    exact decryptFile_of_write hc hbytes

end

namespace KnownRun

open Known

/-- A save that fails behind its folder, one that creates the file and one that updates it. -/
def behind : List Event :=
  [.save "eclair.bkup" "phone" content iv, .listFolders 0 false [], .createFolder 0 false 1,
    .fail 0,
    .save "eclair.bkup" "phone" content iv, .listFolders 0 false [⟨0, "eclair-mobile"⟩],
    .listFiles 0 0 [], .listFolders 0 true [⟨0, "eclair-mobile"⟩], .createFile 0 0 2,
    .save "eclair.bkup" "tablet" content iv, .listFolders 0 false [⟨0, "eclair-mobile"⟩],
    .listFiles 0 0 [⟨1, "eclair.bkup", 0, some (some "phone"), 2, backupFile⟩],
    .updateFile 0 1 3]

theorem run_behind : (run (step crypto keysOf false) empty behind).map
    (fun s => s.drive.files.map File.appProperties) = some [some (some "tablet")] := by
  decide +kernel

theorem single_of_reach_behind : ∃ s : Backups,
    s.drive.files.map File.appProperties = [some (some "tablet")] ∧
    s.drive.folders.length ≤ 1 ∧ (s.drive.files.map File.name).Nodup ∧
      ∀ file ∈ s.drive.files, (∃ name, s.drive.folders = [⟨file.parent, name⟩]) ∧
        ∃ w, s.writes.find? (fun w => w.backupFileName = file.name) = some w ∧
          decryptFile crypto (keysOf file.name) file.content = .ok w.eclairDBFile := by
  obtain ⟨s, hs, hfiles⟩ := Option.map_eq_some_iff.mp run_behind
  have hmeets : Meets (step crypto keysOf false) Alone empty behind := by
    decide +kernel
  have hreach : Reach (step crypto keysOf false) Alone Unused s :=
    reach_of_meets ⟨rfl, rfl, rfl, rfl⟩ hmeets hs
  exact ⟨s, hfiles, single_of_reach (Crypto.ofKnown_lawful answers) hreach⟩

end KnownRun

end Backups

end GoogleDrive

end EclairMobile
