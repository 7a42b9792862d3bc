import Mathlib.Data.List.Permutation
import EclairMobile.Backups.Verdicts

/-!
# findBestBackup as a function of the map

The loop skips a pending scan, but the comparator of the sort dereferences it.  With two entries the
outcome then depends on the iteration order, as it does for two readable backups of the same date of
which neither wins against the other.
-/

namespace EclairMobile

namespace RestoreChannelsBackupActivity

/-! ### Sorting the entries of a map -/

section Pairs

variable {m : ScanMap} {a b : ScanEntry}

theorem findBestBackup_eq (m : ScanMap) :
    findBestBackup m = (sortBackupDateDesc m.entries).bind (findBestLoop none) := by
  unfold findBestBackup Except.bind
  split <;> simp [*]

theorem compare_ok_iff : (∃ c, compare a b = .ok c) ↔
    a.2 ≠ none ∧ (b.2 = none → ∀ o, a.2 ≠ some (some (.ok o))) := by
  obtain ⟨ta, va⟩ := a
  obtain ⟨tb, vb⟩ := b
  rcases va with _ | _ | _ | oa
  · simp [compare]
  · simp [compare]
  · simp [compare]
  · rcases vb with _ | _ | _ | ob <;> simp [compare]

/-- The comparator fails on a pending scan only. -/
theorem eq_nullPointer_of_compare {e : FindError} (h : compare a b = .error e) :
    e = .nullPointer := by
  unfold compare at h
  split at h
  · exact (Except.error.inj h).symm
  · split at h
    · exact (Except.error.inj h).symm
    · cases h
    · cases h
  · cases h

/-- What the one comparison of two entries dereferences is there: the later value, and the earlier
one if the later one is readable. -/
def NullSafe (m : ScanMap) : Prop :=
  ∀ a b, m.entries = [a, b] →
    b.2 ≠ none ∧ (a.2 = none → ∀ o, b.2 ≠ some (some (.ok o)))

theorem sortBackupDateDesc_cases (m : ScanMap) :
    (NullSafe m ∧ ∃ l, sortBackupDateDesc m.entries = .ok l) ∨
      (¬ NullSafe m ∧ sortBackupDateDesc m.entries = .error .nullPointer) := by
  rcases entries_cases m with he | ⟨a, he⟩ | ⟨a, b, he⟩
  · exact Or.inl ⟨by simp [NullSafe, he], [], by rw [he]; rfl⟩
  · exact Or.inl ⟨by simp [NullSafe, he], [a], by rw [he]; rfl⟩
  · have hsafe : NullSafe m ↔ ∃ c, compare b a = .ok c := by
      rw [compare_ok_iff]
      constructor
      · exact fun h => h a b he
      · intro h a' b' he'
        obtain ⟨rfl, rfl⟩ : a = a' ∧ b = b' := by simpa [he] using he'
        exact h
    rw [hsafe, he, sortBackupDateDesc_pair]
    cases hc : compare b a with
    | error e => exact Or.inr ⟨by simp, by rw [eq_nullPointer_of_compare hc]; rfl⟩
    | ok c => exact Or.inl ⟨⟨c, rfl⟩, _, rfl⟩

end Pairs

/-! ### What the search promises -/

/-- The map holds an unreadable backup. -/
def Failing (m : ScanMap) : Prop :=
  ∃ type message, m.lookup type = some (some (some (.failure message)))

/-- `UnreadableBackupException` is thrown exactly if there is an unreadable backup, and nothing else
is thrown.  Otherwise the result is null exactly if there is no readable backup, and else it is one
of them. -/
structure FindsBest (m : ScanMap) : Prop where
  throws : (∃ type message, findBestBackup m = .error (.unreadableBackup type message)) ↔ Failing m
  noNullPointer : findBestBackup m ≠ .error .nullPointer
  isNull : ¬ Failing m → (findBestBackup m = .ok none ↔ ∀ b, ¬ Readable m b)
  isReadable : ¬ Failing m → ∀ b, findBestBackup m = .ok (some b) → Readable m b

theorem findsBest_of_sort {m : ScanMap} {l : List ScanEntry}
    (hl : sortBackupDateDesc m.entries = .ok l) : FindsBest m := by
  have hperm := sortBackupDateDesc_perm hl
  have hfind : findBestBackup m = findBestLoop none l := by rw [findBestBackup_eq, hl]; rfl
  by_cases hfail : Failing m
  · obtain ⟨type, message, hlookup⟩ := hfail
    obtain ⟨t, msg, hloop⟩ : ∃ t msg, findBestLoop none l = .error (.unreadableBackup t msg) :=
      findBestLoop_failure (hperm.mem_iff.mpr (AList.mem_lookup_iff.mp hlookup))
    rw [← hfind] at hloop
    refine ⟨⟨fun _ => ⟨type, message, hlookup⟩, fun _ => ⟨t, msg, hloop⟩⟩, ?_, ?_, ?_⟩
    · simp [hloop]
    · exact fun h => absurd ⟨type, message, hlookup⟩ h
    · exact fun h => absurd ⟨type, message, hlookup⟩ h
  · have hnone : ∀ e ∈ l, ∀ message, e.2 ≠ some (some (.failure message)) := by
      rintro ⟨t, v⟩ he message rfl
      exact hfail ⟨t, message, AList.mem_lookup_iff.mpr (hperm.mem_iff.mp he)⟩
    obtain ⟨r, hr, hempty⟩ := findBestLoop_ok none hnone
    rw [← hfind] at hr
    refine ⟨?_, by simp [hr], fun _ => ?_, fun _ b hb => readable_of_findBestBackup hb⟩
    · simp [hr, hfail]
    · rw [hr]
      constructor
      · rintro h b ⟨type, hb⟩
        exact (hempty (Except.ok.inj h)).2 type b (hperm.mem_iff.mpr hb)
      · intro h
        cases r with
        | none => rfl
        | some b => exact absurd (readable_of_findBestBackup hr) (h b)

/-- **The search keeps its promise exactly if the comparison of two entries dereferences no pending
scan.** -/
theorem findsBest_iff (m : ScanMap) : FindsBest m ↔ NullSafe m := by
  rcases sortBackupDateDesc_cases m with ⟨hsafe, l, hl⟩ | ⟨hsafe, herr⟩
  · exact ⟨fun _ => hsafe, fun _ => findsBest_of_sort hl⟩
  · refine ⟨fun h => absurd ?_ h.noNullPointer, fun h => absurd h hsafe⟩
    rw [findBestBackup_eq, herr]
    rfl

/-- A readable local backup, while the scan of Google Drive is pending. -/
def pendingMap : ScanMap where
  entries := [okEntry .LOCAL ⟨.LOCAL, uniform 1 (by decide) 1, 1, "LOCAL-restore.sqlite.tmp", true⟩,
    ⟨.GDRIVE, none⟩]
  nodupKeys := by simp [List.NodupKeys, List.keys]

theorem not_findsBest : ¬ ∀ m, FindsBest m :=
  fun h => (h pendingMap).noNullPointer rfl

/-! ### Two iteration orders -/

/-- The outcome is the same for all iteration orders of the map. -/
def OrderIndependent (m : ScanMap) : Prop :=
  ∀ m₁ m₂ : ScanMap, m₁.entries.Perm m.entries → m₂.entries.Perm m.entries →
    findBestBackup m₁ = findBestBackup m₂

/-- The challenger holds all channels of the best backup so far and leads, modulo 2^16. -/
def WinsAgainst (best challenger : BackupScanOk) : Prop :=
  HoldsAll challenger best ∧ 0 < (lead best challenger).bmod (2 ^ 16)

theorem lead_comm (b c : BackupScanOk) : lead c b = - lead b c := by
  unfold lead
  rw [lowerCount_comm b.localCommitIndexMap c.localCommitIndexMap,
    ← lowerCount_comm c.localCommitIndexMap b.localCommitIndexMap]
  omega

theorem WinsAgainst.asymm {b c : BackupScanOk} (h : WinsAgainst b c) : ¬ WinsAgainst c b := by
  rintro ⟨-, hlead⟩
  have hbc := h.2
  rw [lead_comm b c, Int.bmod_def] at hlead
  rw [Int.bmod_def] at hbc
  split_ifs at hlead hbc <;> omega

/-- The first one of two backups does not matter exactly if one of them wins against the other. -/
theorem challenge_comm_iff {b c : BackupScanOk} (hne : b ≠ c) :
    challenge b c = challenge c b ↔ WinsAgainst b c ∨ WinsAgainst c b := by
  by_cases hbc : WinsAgainst b c
  · rw [challenge_eq_second b c hbc.1 hbc.2, challenge_eq_first c b hbc.asymm]
    simp [hbc]
  · rw [challenge_eq_first b c hbc]
    by_cases hcb : WinsAgainst c b
    · rw [challenge_eq_second c b hcb.1 hcb.2]
      simp [hcb]
    · rw [challenge_eq_first c b hcb]
      simp [hbc, hcb, hne]

theorem findBest_pair_ok (t t' : BackupTypes) (b c : BackupScanOk) :
    (sortBackupDateDesc [okEntry t b, okEntry t' c]).bind (findBestLoop none) =
      .ok (some (if b.lastModified < c.lastModified then challenge c b else challenge b c)) := by
  have hcompare : compare (okEntry t' c) (okEntry t b) =
      .ok (compareTo b.lastModified c.lastModified) := rfl
  rw [sortBackupDateDesc_pair, hcompare]
  by_cases hd : b.lastModified < c.lastModified
  · simp [Except.map, Except.bind, compareTo_neg_iff.mpr hd, hd, findBestLoop]
  · simp [Except.map, Except.bind, compareTo_neg_iff, hd, findBestLoop]

theorem findBest_pair_comm {a b : ScanEntry}
    (hread : ∀ o o', a.2 = some (some (.ok o)) → b.2 ≠ some (some (.ok o')))
    (hfail : ∀ e ∈ [a, b], ∀ message, e.2 ≠ some (some (.failure message)))
    (hmixed : a.2 = none → b.2 ≠ some none) (hmixed' : b.2 = none → a.2 ≠ some none) :
    (sortBackupDateDesc [a, b]).bind (findBestLoop none) =
      (sortBackupDateDesc [b, a]).bind (findBestLoop none) := by
  obtain ⟨ta, va⟩ := a
  obtain ⟨tb, vb⟩ := b
  rw [sortBackupDateDesc_pair, sortBackupDateDesc_pair]
  rcases va with _ | _ | m | oa
  · rcases vb with _ | _ | m | ob
    · rfl
    · exact absurd rfl (hmixed rfl)
    · exact absurd rfl (hfail _ (List.mem_cons_of_mem _ List.mem_cons_self) m)
    · rfl
  · rcases vb with _ | _ | m | ob
    · exact absurd rfl (hmixed' rfl)
    · rfl
    · exact absurd rfl (hfail _ (List.mem_cons_of_mem _ List.mem_cons_self) m)
    · rfl
  · exact absurd rfl (hfail _ List.mem_cons_self m)
  · rcases vb with _ | _ | m | ob
    · rfl
    · rfl
    · exact absurd rfl (hfail _ (List.mem_cons_of_mem _ List.mem_cons_self) m)
    · exact absurd rfl (hread oa ob rfl)

/-- Two readable backups: only equal dates leave a choice to the order. -/
theorem findBest_pair_ok_comm_iff (t t' : BackupTypes) (b c : BackupScanOk) :
    (sortBackupDateDesc [okEntry t b, okEntry t' c]).bind (findBestLoop none) =
        (sortBackupDateDesc [okEntry t' c, okEntry t b]).bind (findBestLoop none) ↔
      (b.lastModified = c.lastModified → challenge b c = challenge c b) := by
  rw [findBest_pair_ok, findBest_pair_ok, Except.ok.injEq, Option.some.injEq]
  rcases lt_trichotomy b.lastModified c.lastModified with hd | hd | hd
  · simp [hd, hd.ne, hd.not_gt]
  · simp [hd]
  · simp [hd, hd.ne', hd.not_gt]

theorem both_ok_of_firstSecond {m : ScanMap} {x y : ScanEntry} {b c : BackupScanOk}
    (he : m.entries = [x, y]) (h : FirstSecond m b c) :
    ∃ o o', x.2 = some (some (.ok o)) ∧ y.2 = some (some (.ok o')) := by
  obtain ⟨t, t', ⟨he', -⟩ | ⟨he', -⟩⟩ := h
  · cases he.symm.trans he'
    exact ⟨b, c, rfl, rfl⟩
  · cases he.symm.trans he'
    exact ⟨c, b, rfl, rfl⟩

theorem orderIndependent_pair_iff {m : ScanMap} {a b : ScanEntry} (he : m.entries = [a, b]) :
    OrderIndependent m ↔ (sortBackupDateDesc [a, b]).bind (findBestLoop none) =
      (sortBackupDateDesc [b, a]).bind (findBestLoop none) := by
  have hswap : [b, a].Perm m.entries := he ▸ List.Perm.swap a b []
  constructor
  · intro h
    have heq := h m ⟨[b, a], (List.perm_nodupKeys hswap).mpr m.nodupKeys⟩ (List.Perm.refl _) hswap
    simpa only [findBestBackup_eq, he] using heq
  · intro h m₁ m₂ h₁ h₂
    rw [he, List.perm_pair] at h₁ h₂
    rw [findBestBackup_eq, findBestBackup_eq]
    rcases h₁ with h₁ | h₁ <;> rcases h₂ with h₂ | h₂ <;> simp only [h₁, h₂, h]

/-- **The outcome depends on the iteration order exactly for two different readable backups of one
date of which neither wins against the other**, in a map without unreadable backups that does not
combine a pending scan with an absent result. -/
theorem orderIndependent_iff {m : ScanMap} (hfail : ¬ Failing m)
    (hmixed : ∀ t t', m.lookup t = some none → m.lookup t' ≠ some (some none)) :
    OrderIndependent m ↔ ∀ b c, Readable m b → Readable m c → b ≠ c →
      b.lastModified = c.lastModified → WinsAgainst b c ∨ WinsAgainst c b := by
  rcases entries_cases m with he | ⟨a, he⟩ | ⟨a, b, he⟩
  · refine iff_of_true (fun m₁ m₂ h₁ h₂ => ?_) (fun b c hb => ?_)
    · rw [he, List.perm_nil] at h₁ h₂
      rw [AList.ext (h₁.trans h₂.symm)]
    · simp [Readable, he] at hb
  · refine iff_of_true (fun m₁ m₂ h₁ h₂ => ?_) ?_
    · rw [he, List.perm_singleton] at h₁ h₂
      rw [AList.ext (h₁.trans h₂.symm)]
    · rintro b c ⟨t, hb⟩ ⟨t', hc⟩ hne
      rw [he, List.mem_singleton] at hb hc
      cases hb.trans hc.symm
      exact absurd rfl hne
  · rw [orderIndependent_pair_iff he]
    have hmem : ∀ e ∈ [a, b], m.lookup e.1 = some e.2 := by
      intro e hab
      rw [← he] at hab
      exact AList.mem_lookup_iff.mpr hab
    have ha := hmem a List.mem_cons_self
    have hb := hmem b (List.mem_cons_of_mem _ List.mem_cons_self)
    by_cases hboth : ∃ o o', a.2 = some (some (.ok o)) ∧ b.2 = some (some (.ok o'))
    · obtain ⟨ta, va⟩ := a
      obtain ⟨tb, vb⟩ := b
      obtain ⟨o, o', rfl, rfl⟩ := hboth
      rw [findBest_pair_ok_comm_iff]
      have hread : ∀ c, Readable m c ↔ c = o ∨ c = o' := by
        intro c
        simp [Readable, he, exists_or]
      simp only [hread]
      constructor
      · rintro h b c (rfl | rfl) (rfl | rfl) hne hd
        · exact absurd rfl hne
        · exact (challenge_comm_iff hne).mp (h hd)
        · exact ((challenge_comm_iff hne.symm).mp (h hd.symm)).symm
        · exact absurd rfl hne
      · intro h hd
        by_cases hne : o = o'
        · rw [hne]
        · exact (challenge_comm_iff hne).mpr (h o o' (Or.inl rfl) (Or.inr rfl) hne hd)
    · refine iff_of_true (findBest_pair_comm ?_ ?_ ?_ ?_) ?_
      · intro o o' hva hvb
        exact hboth ⟨o, o', hva, hvb⟩
      · intro e hab message hv
        exact hfail ⟨e.1, message, by rw [hmem e hab, hv]⟩
      · intro hva hvb
        exact hmixed a.1 b.1 (by rw [ha, hva]) (by rw [hb, hvb])
      · intro hvb hva
        exact hmixed b.1 a.1 (by rw [hb, hvb]) (by rw [ha, hva])
      · rintro o o' ho ho' hne -
        rcases eq_or_firstSecond ho ho' with h | h | h
        · exact absurd h hne
        · exact absurd (both_ok_of_firstSecond he h) hboth
        · exact absurd (both_ok_of_firstSecond he h) hboth

/-- A local backup and an older one from Google Drive have different dates, so their order does not
matter. -/
theorem orderIndependent_behindMap : OrderIndependent (behindMap 1 (by decide)) := by
  refine (orderIndependent_iff ?_ ?_).mpr ?_
  · rintro ⟨t, message, h⟩
    have hmem := AList.mem_lookup_iff.mp h
    simp [behindMap] at hmem
  · intro t t' h
    have hmem := AList.mem_lookup_iff.mp h
    simp [behindMap] at hmem
  · rintro b c ⟨t, hb⟩ ⟨t', hc⟩ hne hd
    simp only [behindMap, List.mem_cons, List.not_mem_nil, or_false] at hb hc
    rcases hb with hb | hb <;> rcases hc with hc | hc <;> cases hb <;> cases hc
    · exact absurd rfl hne
    · exact absurd hd (by decide)
    · exact absurd hd (by decide)
    · exact absurd rfl hne

/-- A local backup with one channel and one of the same date with a second channel. -/
def tiedMap (localFirst : Bool) : ScanMap where
  entries :=
    let localEntry := okEntry .LOCAL ⟨.LOCAL, uniform 1 (by decide) 1, 1, "LOCAL-restore", true⟩
    let gdriveEntry := okEntry .GDRIVE ⟨.GDRIVE, uniform 2 (by decide) 1, 1, "GDRIVE-restore", true⟩
    if localFirst then [localEntry, gdriveEntry] else [gdriveEntry, localEntry]
  nodupKeys := by cases localFirst <;> simp [List.NodupKeys, List.keys]

/-- In one order the second channel is restored, in the other it is not. -/
theorem not_orderIndependent : ¬ ∀ m, ¬ Failing m → OrderIndependent m := by
  intro h
  have hfail : ¬ Failing (tiedMap true) := by
    rintro ⟨t, message, hlookup⟩
    have hmem := AList.mem_lookup_iff.mp hlookup
    simp [tiedMap] at hmem
  have heq := h (tiedMap true) hfail (tiedMap true) (tiedMap false) (List.Perm.refl _)
    (List.Perm.swap _ _ [])
  have htype := congrArg (fun r => r.toOption.bind fun b => b.map (·.type)) heq
  exact absurd htype (by decide)

end RestoreChannelsBackupActivity

end EclairMobile
