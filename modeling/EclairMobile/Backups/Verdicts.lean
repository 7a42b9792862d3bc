import EclairMobile.Activities.RestoreScreen

/-!
# How the results of an attempt are judged

What `handleBackups` shows and proposes, as a function of the results map.  A map with an unreadable
backup is an error; otherwise the best of the readable backups is found, if there is one.
-/

namespace EclairMobile

namespace RestoreChannelsBackupActivity

open Lib

/-! ### Sorting and searching results without null entries -/

section Search

variable {l : List ScanEntry}

theorem insertEntry_ok {x : ScanEntry} (hx : x.2 ≠ none) (h : ∀ e ∈ l, e.2 ≠ none) :
    ∃ l', insertEntry x l = .ok l' := by
  have hcompare : ∀ y : ScanEntry, y.2 ≠ none → ∃ c, compare x y = .ok c := by
    rintro ⟨ty, vy⟩ hy
    obtain ⟨tx, vx⟩ := x
    rcases vx with _ | _ | _ | _
    · exact absurd rfl hx
    · exact ⟨_, rfl⟩
    · exact ⟨_, rfl⟩
    · rcases vy with _ | _ | _ | _
      · exact absurd rfl hy
      · exact ⟨_, rfl⟩
      · exact ⟨_, rfl⟩
      · exact ⟨_, rfl⟩
  induction l with
  | nil => exact ⟨[x], rfl⟩
  | cons y l ih =>
    obtain ⟨c, hc⟩ := hcompare y (h y List.mem_cons_self)
    obtain ⟨l', hl'⟩ := ih fun e he => h e (List.mem_cons_of_mem y he)
    simp only [insertEntry, hc, hl']
    split
    · exact ⟨_, rfl⟩
    · exact ⟨_, rfl⟩

theorem sortBackupDateDesc_ok (h : ∀ e ∈ l, e.2 ≠ none) :
    ∃ l', sortBackupDateDesc l = .ok l' := by
  have key : ∀ (l acc : List ScanEntry), (∀ e ∈ l, e.2 ≠ none) → (∀ e ∈ acc, e.2 ≠ none) →
      ∃ l', l.foldlM (fun sorted x => insertEntry x sorted) acc = .ok l' := by
    intro l
    induction l with
    | nil => exact fun acc _ _ => ⟨acc, rfl⟩
    | cons x l ih =>
      intro acc hl hacc
      obtain ⟨acc', hi⟩ := insertEntry_ok (hl x List.mem_cons_self) hacc
      have hacc' : ∀ e ∈ acc', e.2 ≠ none := by
        intro e he
        rcases List.mem_cons.mp ((insertEntry_perm hi).mem_iff.mp he) with rfl | he
        · exact hl e List.mem_cons_self
        · exact hacc e he
      rw [List.foldlM_cons, hi]
      exact ih acc' (fun e he => hl e (List.mem_cons_of_mem x he)) hacc'
  exact key l [] h fun e he => absurd he List.not_mem_nil

/-- An unreadable backup stops the search. -/
theorem findBestLoop_failure {best : Option BackupScanOk} {type : BackupTypes} {message : String}
    (h : (⟨type, some (some (.failure message))⟩ : ScanEntry) ∈ l) :
    ∃ t m, findBestLoop best l = .error (.unreadableBackup t m) := by
  induction l generalizing best with
  | nil => cases h
  | cons e l ih =>
    obtain ⟨t, v⟩ := e
    rcases List.mem_cons.mp h with he | htail
    · cases he
      exact ⟨type, message, rfl⟩
    · rcases v with _ | _ | m | c
      · exact ih htail
      · exact ih htail
      · exact ⟨t, m, rfl⟩
      · exact ih htail

theorem findBestLoop_ok (best : Option BackupScanOk)
    (h : ∀ e ∈ l, ∀ message, e.2 ≠ some (some (.failure message))) :
    ∃ r, findBestLoop best l = .ok r ∧
      (r = none → best = none ∧ ∀ type b, okEntry type b ∉ l) := by
  induction l generalizing best with
  | nil => exact ⟨best, rfl, fun hr => ⟨hr, fun _ _ => List.not_mem_nil⟩⟩
  | cons e l ih =>
    obtain ⟨t, v⟩ := e
    have htail : ∀ e ∈ l, ∀ message, e.2 ≠ some (some (.failure message)) :=
      fun e he => h e (List.mem_cons_of_mem _ he)
    rcases v with _ | _ | m | c
    · obtain ⟨r, hr, hnone⟩ := ih best htail
      refine ⟨r, hr, fun h0 => ⟨(hnone h0).1, fun type b hmem => ?_⟩⟩
      exact (hnone h0).2 type b ((List.mem_cons.mp hmem).resolve_left (by simp))
    · obtain ⟨r, hr, hnone⟩ := ih best htail
      refine ⟨r, hr, fun h0 => ⟨(hnone h0).1, fun type b hmem => ?_⟩⟩
      exact (hnone h0).2 type b ((List.mem_cons.mp hmem).resolve_left (by simp))
    · exact absurd rfl (h _ List.mem_cons_self m)
    · obtain ⟨r, hr, hnone⟩ :=
        ih (some (best.elim c fun b => challenge b c)) htail
      refine ⟨r, hr, fun h0 => ?_⟩
      cases (hnone h0).1

end Search

/-! ### The verdict on a map -/

section Verdict

variable {m : ScanMap}

theorem sortBackupDateDesc_entries (hnull : ∀ type, m.lookup type ≠ some none) :
    ∃ l, sortBackupDateDesc m.entries = .ok l := by
  refine sortBackupDateDesc_ok ?_
  rintro ⟨t, v⟩ he rfl
  exact hnull t (AList.mem_lookup_iff.mpr he)

theorem findBestBackup_failure (hnull : ∀ type, m.lookup type ≠ some none) {type : BackupTypes}
    {message : String} (h : m.lookup type = some (some (some (.failure message)))) :
    ∃ t msg, findBestBackup m = .error (.unreadableBackup t msg) := by
  obtain ⟨l, hl⟩ := sortBackupDateDesc_entries hnull
  have hmem := (sortBackupDateDesc_perm hl).mem_iff.mpr (AList.mem_lookup_iff.mp h)
  unfold findBestBackup
  simp only [hl]
  exact findBestLoop_failure hmem

theorem readable_iff {b : BackupScanOk} :
    Readable m b ↔ ∃ type, m.lookup type = some (some (some (.ok b))) :=
  exists_congr fun _ => AList.mem_lookup_iff.symm

/-- Without unreadable backups, a backup is found exactly if there is a readable one. -/
theorem findBestBackup_ok (hnull : ∀ type, m.lookup type ≠ some none)
    (hfail : ∀ type message, m.lookup type ≠ some (some (some (.failure message)))) :
    ∃ r, findBestBackup m = .ok r ∧ (r = none → ∀ b, ¬ Readable m b) := by
  obtain ⟨l, hl⟩ := sortBackupDateDesc_entries hnull
  have hperm := sortBackupDateDesc_perm hl
  have hl' : ∀ e ∈ l, ∀ message, e.2 ≠ some (some (.failure message)) := by
    rintro ⟨t, v⟩ he message rfl
    exact hfail t message (AList.mem_lookup_iff.mpr (hperm.mem_iff.mp he))
  obtain ⟨r, hr, hnone⟩ := findBestLoop_ok none hl'
  unfold findBestBackup
  simp only [hl]
  refine ⟨r, hr, ?_⟩
  rintro h0 b ⟨type, hb⟩
  exact (hnone h0).2 type b (hperm.mem_iff.mpr hb)

theorem findBestBackup_none (hnull : ∀ type, m.lookup type ≠ some none)
    (hfail : ∀ type message, m.lookup type ≠ some (some (some (.failure message))))
    (hread : ∀ b, ¬ Readable m b) : findBestBackup m = .ok none := by
  obtain ⟨r, hr, -⟩ := findBestBackup_ok hnull hfail
  cases r with
  | none => exact hr
  | some b => exact absurd (readable_of_findBestBackup hr) (hread b)

theorem findBestBackup_unique (hnull : ∀ type, m.lookup type ≠ some none)
    (hfail : ∀ type message, m.lookup type ≠ some (some (some (.failure message))))
    {b : BackupScanOk} (hread : ∀ c, Readable m c ↔ c = b) :
    findBestBackup m = .ok (some b) := by
  obtain ⟨r, hr, hnone⟩ := findBestBackup_ok hnull hfail
  cases r with
  | none => exact absurd ((hread b).mpr rfl) (hnone rfl b)
  | some c => rw [hr, (hread c).mp (readable_of_findBestBackup hr)]

/-- Of the readable backups `b` and `c`, the choice is `c`: it comes first and `b` does not win
against it, or it comes second and wins against `b`. -/
def Displaces (m : ScanMap) (b c : BackupScanOk) : Prop :=
  (FirstSecond m c b ∧ ¬ (HoldsAll b c ∧ 0 < (lead c b).bmod (2 ^ 16))) ∨
    (FirstSecond m b c ∧ HoldsAll c b ∧ 0 < (lead b c).bmod (2 ^ 16))

theorem findBestBackup_of_displaces {b c : BackupScanOk} (h : Displaces m b c) :
    findBestBackup m = .ok (some c) := by
  rcases h with ⟨hfirst, hwin⟩ | ⟨hfirst, hall, hlead⟩
  · rw [findBestBackup_of_firstSecond hfirst, challenge_eq_first c b hwin]
  · rw [findBestBackup_of_firstSecond hfirst, challenge_eq_second b c hall hlead]

theorem findBestBackup_of_not_displaces {b c : BackupScanOk} (hb : Readable m b)
    (hc : Readable m c) (hne : b ≠ c) (h : ¬ Displaces m b c) :
    findBestBackup m = .ok (some b) := by
  have key : ∀ {b c : BackupScanOk}, ¬ Displaces m b c → FirstSecond m b c →
      findBestBackup m = .ok (some b) := by
    intro b c h hfirst
    rw [findBestBackup_of_firstSecond hfirst, challenge_eq_first b c fun hwin =>
      h (Or.inr ⟨hfirst, hwin⟩)]
  rcases eq_or_firstSecond hb hc with he | hfirst | hfirst
  · exact absurd he hne
  · exact key h hfirst
  · have hwin : HoldsAll b c ∧ 0 < (lead c b).bmod (2 ^ 16) := by
      by_contra hlose
      exact h (Or.inl ⟨hfirst, hlose⟩)
    rw [findBestBackup_of_firstSecond hfirst, challenge_eq_second c b hwin.1 hwin.2]

end Verdict

end RestoreChannelsBackupActivity

end EclairMobile
