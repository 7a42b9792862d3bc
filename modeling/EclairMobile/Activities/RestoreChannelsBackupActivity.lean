import Mathlib.Data.List.AList
import EclairMobile.Models.Payment

/-!
# RestoreChannelsBackupActivity

The choice of the backup to restore.  The scans are sorted by date, readable backups first and most
recent first, and each later backup challenges the best one so far: it must hold all of its
channels, and win more commitment indexes than it loses, counted in a 16-bit score.
-/

namespace EclairMobile

namespace RestoreChannelsBackupActivity

inductive BackupTypes
  | LOCAL
  | GDRIVE
  deriving DecidableEq, Repr

abbrev ByteVector32 := BitVec 256

/-- `localCommitIndexMap`. -/
abbrev IndexMap := AList fun _ : ByteVector32 => ℤ

structure BackupScanOk where
  type : BackupTypes
  localCommitIndexMap : IndexMap
  lastModified : Date
  file : String
  isFromDevice : Bool := true

inductive BackupScanResult
  | failure (message : String)
  | ok (backup : BackupScanOk)

/-- An entry of the results map.  Its value is null while the scan is pending, and an empty option
if nothing was found. -/
abbrev ScanEntry := Sigma fun _ : BackupTypes => Option (Option BackupScanResult)

/-- The entry of a readable backup. -/
abbrev okEntry (type : BackupTypes) (backup : BackupScanOk) : ScanEntry :=
  ⟨type, some (some (.ok backup))⟩

/-- `Map<BackupTypes, Option<BackupScanResult>>`, with its entries in some iteration order. -/
abbrev ScanMap := AList fun _ : BackupTypes => Option (Option BackupScanResult)

inductive FindError
  | nullPointer
  | unreadableBackup (type : BackupTypes) (message : String)

/-! ### Sorting -/

/-- `Date.compareTo`. -/
def compareTo (d e : Date) : ℤ := if d < e then -1 else if d = e then 0 else 1

/-- The comparator of `sortBackupDateDesc`. -/
def compare (b₁ b₂ : ScanEntry) : Except FindError ℤ :=
  match b₁.2 with
  | none => .error .nullPointer
  | some (some (.ok o₁)) =>
    match b₂.2 with
    | none => .error .nullPointer
    | some (some (.ok o₂)) => .ok (compareTo o₂.lastModified o₁.lastModified)
    | some _ => .ok (-1)
  | some _ => .ok 1

/-- Inserts an entry before the first one that it compares less than. -/
def insertEntry (x : ScanEntry) : List ScanEntry → Except FindError (List ScanEntry)
  | [] => .ok [x]
  | y :: ys =>
    match compare x y with
    | .error e => .error e
    | .ok c =>
      if c < 0 then .ok (x :: y :: ys)
      else (insertEntry x ys).map (y :: ·)

/-- `Collections.sort` with the comparator.  The sort is stable and only asks whether a comparison
is negative. -/
def sortBackupDateDesc (entries : List ScanEntry) : Except FindError (List ScanEntry) :=
  entries.foldlM (fun sorted x => insertEntry x sorted) []

/-! ### Comparing two backups -/

/-- The values of `Maps.difference(left, right).entriesDiffering()`. -/
def entriesDiffering (left right : IndexMap) : List (ℤ × ℤ) :=
  left.entries.filterMap fun e =>
    (right.lookup e.1).bind fun w => if e.2 = w then none else some (e.2, w)

/-- The score of a challenger; if it is positive, the challenger becomes the new best. -/
def score (diff : List (ℤ × ℤ)) : Int16 :=
  diff.foldl (fun score d => if d.1 ≥ d.2 then score - 1 else score + 1) 0

/-- The size of the intersection of the channels. -/
def channelsIntersection (left right : IndexMap) : ℕ :=
  left.entries.countP fun e => (right.lookup e.1).isSome

/-- The better one of the best backup so far and its challenger. -/
def challenge (best challenger : BackupScanOk) : BackupScanOk :=
  let l := best.localCommitIndexMap
  let r := challenger.localCommitIndexMap
  if channelsIntersection l r < l.entries.length then best
  else if score (entriesDiffering l r) > 0 then challenger
  else best

/-- The loop of `findBestBackup` over the sorted entries. -/
def findBestLoop : Option BackupScanOk → List ScanEntry → Except FindError (Option BackupScanOk)
  | best, [] => .ok best
  | best, ⟨type, value⟩ :: rest =>
    match value with
    | some (some (.ok challenger)) =>
      -- the first readable backup is best by default, as the most recent one
      findBestLoop (some (best.elim challenger fun b => challenge b challenger)) rest
    | some (some (.failure message)) => .error (.unreadableBackup type message)
    | _ => findBestLoop best rest

def findBestBackup (backupsSet : ScanMap) : Except FindError (Option BackupScanOk) :=
  match sortBackupDateDesc backupsSet.entries with
  | .error e => .error e
  | .ok sortedBackups => findBestLoop none sortedBackups

/-! ### The score counts, modulo 2^16 -/

section Count

variable (l r : IndexMap)

/-- The channels of `l` on which it has a higher index than `r`. -/
def higherCount : ℕ := l.entries.countP fun e => (r.lookup e.1).any (· < e.2)

/-- The channels of `l` on which it has a lower index than `r`. -/
def lowerCount : ℕ := l.entries.countP fun e => (r.lookup e.1).any (e.2 < ·)

theorem toInt_score (diff : List (ℤ × ℤ)) : (score diff).toInt =
    ((diff.countP fun d => d.1 < d.2 : ℤ) - diff.countP fun d => d.1 ≥ d.2).bmod (2 ^ 16) := by
  have key : ∀ (diff : List (ℤ × ℤ)) (s : Int16),
      (diff.foldl (fun score d => if d.1 ≥ d.2 then score - 1 else score + 1) s).toInt =
        (s.toInt + ((diff.countP fun d => d.1 < d.2 : ℤ) - diff.countP fun d => d.1 ≥ d.2)).bmod
          (2 ^ 16) := by
    intro diff
    induction diff with
    | nil =>
      intro s
      simp
    | cons d ds ih =>
      intro s
      rw [List.foldl_cons, ih]
      by_cases hd : d.1 ≥ d.2
      · have hlt : ¬ d.1 < d.2 := by omega
        simp only [List.countP_cons, hd, hlt, decide_true, decide_false, if_true,
          Bool.false_eq_true, if_false, Int16.toInt_sub, Int.bmod_add_bmod]
        congr 1
        simp
        omega
      · have hlt : d.1 < d.2 := by omega
        simp only [List.countP_cons, hd, hlt, decide_true, decide_false, if_true,
          Bool.false_eq_true, if_false, Int16.toInt_add, Int.bmod_add_bmod]
        congr 1
        simp
        omega
  simpa [score] using key diff 0

theorem countP_entriesDiffering :
    (entriesDiffering l r).countP (fun d => d.1 < d.2) = lowerCount l r ∧
    (entriesDiffering l r).countP (fun d => d.1 ≥ d.2) = higherCount l r := by
  unfold entriesDiffering lowerCount higherCount
  induction l.entries with
  | nil => exact ⟨rfl, rfl⟩
  | cons e es ih =>
    obtain ⟨ih₁, ih₂⟩ := ih
    cases hw : r.lookup e.1 with
    | none => simp [hw, ih₁, ih₂]
    | some w =>
      by_cases he : e.2 = w
      · simp [hw, he, ih₁, ih₂]
      · simp only [List.filterMap_cons, hw, Option.bind_some, if_neg he, List.countP_cons, ih₁, ih₂,
          Option.any_some]
        refine ⟨trivial, ?_⟩
        have hiff : (e.2 ≥ w) ↔ (w < e.2) := by omega
        simp [hiff]

end Count

/-! ### The choice is made among the readable backups -/

/-- The map holds a readable backup. -/
def Readable (m : ScanMap) (b : BackupScanOk) : Prop :=
  ∃ type, okEntry type b ∈ m.entries

theorem insertEntry_perm {x : ScanEntry} {l l' : List ScanEntry} (h : insertEntry x l = .ok l') :
    l'.Perm (x :: l) := by
  induction l generalizing l' with
  | nil =>
    obtain rfl := Except.ok.inj h
    exact List.Perm.refl _
  | cons y ys ih =>
    simp only [insertEntry] at h
    split at h
    · cases h
    · split at h
      · obtain rfl := Except.ok.inj h
        exact List.Perm.refl _
      · cases hi : insertEntry x ys with
        | error e =>
          rw [hi] at h
          cases h
        | ok zs =>
          rw [hi] at h
          obtain rfl := Except.ok.inj h
          exact ((ih hi).cons y).trans (List.Perm.swap x y ys)

theorem sortBackupDateDesc_perm {l l' : List ScanEntry} (h : sortBackupDateDesc l = .ok l') :
    l'.Perm l := by
  have key : ∀ (l acc l' : List ScanEntry),
      l.foldlM (fun sorted x => insertEntry x sorted) acc = .ok l' → l'.Perm (acc ++ l) := by
    intro l
    induction l with
    | nil =>
      intro acc l' h
      obtain rfl := Except.ok.inj h
      simp
    | cons x xs ih =>
      intro acc l' h
      rw [List.foldlM_cons] at h
      cases hi : insertEntry x acc with
      | error e =>
        rw [hi] at h
        cases h
      | ok acc' =>
        rw [hi] at h
        refine (ih acc' l' h).trans ?_
        refine ((insertEntry_perm hi).append_right xs).trans ?_
        exact List.perm_middle.symm
  simpa using key l [] l' h

theorem challenge_eq_or (b c : BackupScanOk) : challenge b c = b ∨ challenge b c = c := by
  simp only [challenge]
  split
  · exact Or.inl rfl
  · split
    · exact Or.inr rfl
    · exact Or.inl rfl

theorem findBestLoop_mem {l : List ScanEntry} {best : Option BackupScanOk} {b : BackupScanOk}
    (h : findBestLoop best l = .ok (some b)) :
    best = some b ∨ ∃ type, okEntry type b ∈ l := by
  induction l generalizing best with
  | nil => exact Or.inl (Except.ok.inj h)
  | cons e es ih =>
    obtain ⟨type, value⟩ := e
    simp only [findBestLoop] at h
    split at h
    · next c =>
      rcases ih h with hb | ⟨t, ht⟩
      · cases best with
        | none =>
          obtain rfl := Option.some.inj hb
          exact Or.inr ⟨type, List.mem_cons_self⟩
        | some b₀ =>
          have hb' : challenge b₀ c = b := Option.some.inj hb
          rcases challenge_eq_or b₀ c with hc | hc
          · exact Or.inl (by rw [← hb', hc])
          · exact Or.inr ⟨type, by rw [← hb', hc]; exact List.mem_cons_self⟩
      · exact Or.inr ⟨t, List.mem_cons_of_mem _ ht⟩
    · cases h
    · rcases ih h with hb | ⟨t, ht⟩
      · exact Or.inl hb
      · exact Or.inr ⟨t, List.mem_cons_of_mem _ ht⟩

/-- What is found is one of the readable backups of the map. -/
theorem readable_of_findBestBackup {m : ScanMap} {b : BackupScanOk}
    (h : findBestBackup m = .ok (some b)) : Readable m b := by
  simp only [findBestBackup] at h
  split at h
  · cases h
  · next sorted hs =>
    rcases findBestLoop_mem h with hb | ⟨t, ht⟩
    · cases hb
    · exact ⟨t, (sortBackupDateDesc_perm hs).mem_iff.mp ht⟩

/-! ### Two readable backups -/

/-- The two readable backups of the map in date order, or in iteration order if their dates are
equal. -/
def FirstSecond (m : ScanMap) (first second : BackupScanOk) : Prop :=
  ∃ t t', (m.entries = [okEntry t first, okEntry t' second] ∧
      ¬ first.lastModified < second.lastModified) ∨
    (m.entries = [okEntry t' second, okEntry t first] ∧
      second.lastModified < first.lastModified)

theorem sortBackupDateDesc_pair (a b : ScanEntry) : sortBackupDateDesc [a, b] =
    (compare b a).map fun c => if c < 0 then [b, a] else [a, b] := by
  unfold sortBackupDateDesc
  simp only [List.foldlM_cons, List.foldlM_nil, insertEntry, bind, Except.bind, pure, Except.pure]
  cases compare b a with
  | error e => rfl
  | ok c => by_cases hc : c < 0 <;> simp [hc, Except.map]

theorem compareTo_neg_iff {d e : Date} : compareTo d e < 0 ↔ d < e := by
  unfold compareTo
  split
  · simp [*]
  · split <;> simp [*]

/-- With two readable backups, the second one challenges the first. -/
theorem findBestBackup_of_firstSecond {m : ScanMap} {first second : BackupScanOk}
    (h : FirstSecond m first second) :
    findBestBackup m = .ok (some (challenge first second)) := by
  obtain ⟨t, t', ⟨he, hd⟩ | ⟨he, hd⟩⟩ := h
  · have hs : sortBackupDateDesc m.entries =
        .ok [okEntry t first, okEntry t' second] := by
      have hc : ¬ compareTo first.lastModified second.lastModified < 0 := by
        rwa [compareTo_neg_iff]
      rw [he, sortBackupDateDesc_pair]
      simp [compare, Except.map, hc]
    simp [findBestBackup, hs, findBestLoop]
  · have hs : sortBackupDateDesc m.entries =
        .ok [okEntry t first, okEntry t' second] := by
      have hc : compareTo second.lastModified first.lastModified < 0 := compareTo_neg_iff.mpr hd
      rw [he, sortBackupDateDesc_pair]
      simp [compare, Except.map, hc]
    simp [findBestBackup, hs, findBestLoop]

theorem readable_iff_of_firstSecond {m : ScanMap} {first second : BackupScanOk}
    (h : FirstSecond m first second) (c : BackupScanOk) :
    Readable m c ↔ c = first ∨ c = second := by
  obtain ⟨t, t', ⟨he, -⟩ | ⟨he, -⟩⟩ := h
  · simp only [Readable, he, List.mem_cons, List.not_mem_nil, or_false]
    constructor
    · rintro ⟨type, h | h⟩
      · cases h
        exact Or.inl rfl
      · cases h
        exact Or.inr rfl
    · rintro (rfl | rfl)
      · exact ⟨t, Or.inl rfl⟩
      · exact ⟨t', Or.inr rfl⟩
  · simp only [Readable, he, List.mem_cons, List.not_mem_nil, or_false]
    constructor
    · rintro ⟨type, h | h⟩
      · cases h
        exact Or.inr rfl
      · cases h
        exact Or.inl rfl
    · rintro (rfl | rfl)
      · exact ⟨t, Or.inr rfl⟩
      · exact ⟨t', Or.inl rfl⟩

theorem entries_cases (m : ScanMap) :
    m.entries = [] ∨ (∃ a, m.entries = [a]) ∨ ∃ a b, m.entries = [a, b] := by
  have hnd : (m.entries.map Sigma.fst).Nodup := m.nodupKeys
  rcases he : m.entries with _ | ⟨x, _ | ⟨y, _ | ⟨z, zs⟩⟩⟩
  · exact Or.inl rfl
  · exact Or.inr (Or.inl ⟨x, rfl⟩)
  · exact Or.inr (Or.inr ⟨x, y, rfl⟩)
  · exfalso
    rw [he] at hnd
    simp only [List.map_cons, List.nodup_cons, List.mem_cons, not_or] at hnd
    obtain ⟨⟨hxy, hxz, -⟩, ⟨hyz, -⟩, -⟩ := hnd
    cases hx : x.1 <;> cases hy : y.1 <;> cases hz : z.1 <;> simp_all

/-- Of two readable backups, one comes first. -/
theorem eq_or_firstSecond {m : ScanMap} {b c : BackupScanOk} (hb : Readable m b)
    (hc : Readable m c) :
    b = c ∨ FirstSecond m b c ∨ FirstSecond m c b := by
  obtain ⟨t, ht⟩ := hb
  obtain ⟨t', ht'⟩ := hc
  rcases entries_cases m with he | ⟨x, he⟩ | ⟨x, y, he⟩
  · simp [he] at ht
  · rw [he] at ht ht'
    have hx := (List.mem_singleton.mp ht).trans (List.mem_singleton.mp ht').symm
    cases hx
    exact Or.inl rfl
  · rw [he] at ht ht'
    simp only [List.mem_cons, List.not_mem_nil, or_false] at ht ht'
    rcases ht with rfl | rfl
    · rcases ht' with h | rfl
      · cases h
        exact Or.inl rfl
      · by_cases hd : b.lastModified < c.lastModified
        · exact Or.inr (Or.inr ⟨t', t, Or.inr ⟨he, hd⟩⟩)
        · exact Or.inr (Or.inl ⟨t, t', Or.inl ⟨he, hd⟩⟩)
    · rcases ht' with rfl | h
      · by_cases hd : c.lastModified < b.lastModified
        · exact Or.inr (Or.inl ⟨t, t', Or.inr ⟨he, hd⟩⟩)
        · exact Or.inr (Or.inr ⟨t', t, Or.inl ⟨he, hd⟩⟩)
      · cases h
        exact Or.inl rfl

/-! ### Counting on both sides -/

section Sides

variable (l r : IndexMap)

theorem channelsIntersection_lt_iff :
    channelsIntersection l r < l.entries.length ↔ ¬ l.keys ⊆ r.keys := by
  have hle : channelsIntersection l r ≤ l.entries.length := List.countP_le_length
  have heq : channelsIntersection l r = l.entries.length ↔ l.keys ⊆ r.keys := by
    unfold channelsIntersection
    rw [List.countP_eq_length]
    constructor
    · intro h k hk
      obtain ⟨e, he, rfl⟩ := List.mem_map.mp hk
      exact AList.lookup_isSome.mp (h e he)
    · intro h e he
      exact AList.lookup_isSome.mpr (h (List.mem_map.mpr ⟨e, he, rfl⟩))
  rw [← heq]
  omega

theorem lowerCount_self : lowerCount l l = 0 := by
  unfold lowerCount
  rw [List.countP_eq_zero]
  intro e he
  have hl : l.lookup e.1 = some e.2 := AList.mem_lookup_iff.mpr he
  simp [hl]

theorem lowerCount_comm : lowerCount r l = higherCount l r := by
  unfold lowerCount higherCount
  rw [List.countP_eq_length_filter, List.countP_eq_length_filter]
  have hnd : ∀ (m : IndexMap) (p : Sigma (fun _ : ByteVector32 => ℤ) → Bool),
      ((m.entries.filter p).map Sigma.fst).Nodup := fun m p =>
    List.Nodup.sublist (List.filter_sublist.map _) m.nodupKeys
  have hmem : ∀ k, k ∈ (r.entries.filter fun e => (l.lookup e.1).any (e.2 < ·)).map Sigma.fst ↔
      k ∈ (l.entries.filter fun e => (r.lookup e.1).any (· < e.2)).map Sigma.fst := by
    intro k
    simp only [List.mem_map, List.mem_filter, Option.any_eq_true, decide_eq_true_eq, Sigma.exists,
      exists_and_right, exists_eq_right]
    constructor
    · rintro ⟨v, hv, w, hw, hlt⟩
      exact ⟨w, AList.mem_lookup_iff.mp hw, v, AList.mem_lookup_iff.mpr hv, hlt⟩
    · rintro ⟨w, hw, v, hv, hlt⟩
      exact ⟨v, AList.mem_lookup_iff.mp hv, w, AList.mem_lookup_iff.mpr hw, hlt⟩
  have hperm := (List.perm_ext_iff_of_nodup (hnd r _) (hnd l _)).mpr hmem
  simpa using hperm.length_eq

end Sides

/-! ### Which backup wins -/

section Wins

variable (a d : BackupScanOk)

/-- `c` holds every channel of `b`. -/
def HoldsAll (c b : BackupScanOk) : Prop :=
  b.localCommitIndexMap.keys ⊆ c.localCommitIndexMap.keys

/-- On the channels of `b`, `c` wins no more indexes than it loses. -/
def NotOutscored (b c : BackupScanOk) : Prop :=
  lowerCount b.localCommitIndexMap c.localCommitIndexMap ≤
    higherCount b.localCommitIndexMap c.localCommitIndexMap

/-- The channels on which `a` is lower than `d`, minus those on which it is higher. -/
def lead : ℤ :=
  lowerCount a.localCommitIndexMap d.localCommitIndexMap -
    (higherCount a.localCommitIndexMap d.localCommitIndexMap : ℤ)

theorem notOutscored_iff : NotOutscored a d ↔ lead a d ≤ 0 := by
  unfold NotOutscored lead
  omega

theorem notOutscored_comm_iff : NotOutscored d a ↔ 0 ≤ lead a d := by
  unfold NotOutscored lead
  rw [lowerCount_comm a.localCommitIndexMap d.localCommitIndexMap,
    ← lowerCount_comm d.localCommitIndexMap a.localCommitIndexMap]
  omega

/-- The challenger wins if it holds all channels and leads, modulo 2^16. -/
theorem challenge_eq_second (hall : HoldsAll d a) (hs : 0 < (lead a d).bmod (2 ^ 16)) :
    challenge a d = d := by
  have hint : ¬ channelsIntersection a.localCommitIndexMap d.localCommitIndexMap <
      a.localCommitIndexMap.entries.length := by
    rw [channelsIntersection_lt_iff]
    exact fun h => h hall
  have hscore : score (entriesDiffering a.localCommitIndexMap d.localCommitIndexMap) > 0 := by
    obtain ⟨h₁, h₂⟩ := countP_entriesDiffering a.localCommitIndexMap d.localCommitIndexMap
    rw [gt_iff_lt, Int16.lt_iff_toInt_lt, toInt_score, h₁, h₂]
    exact hs
  simp only [challenge, if_neg hint, if_pos hscore]

theorem challenge_eq_first (h : ¬ (HoldsAll d a ∧ 0 < (lead a d).bmod (2 ^ 16))) :
    challenge a d = a := by
  simp only [challenge]
  split
  · rfl
  · next hint =>
    have hall : HoldsAll d a := by
      rwa [channelsIntersection_lt_iff, not_not] at hint
    rw [if_neg]
    intro hscore
    obtain ⟨h₁, h₂⟩ := countP_entriesDiffering a.localCommitIndexMap d.localCommitIndexMap
    rw [gt_iff_lt, Int16.lt_iff_toInt_lt, toInt_score, h₁, h₂] at hscore
    exact h ⟨hall, hscore⟩

end Wins

/-- No readable backup of the map that holds all channels of the one found outscores it. -/
def BestNotOutscored (m : ScanMap) : Prop :=
  ∀ b, findBestBackup m = .ok (some b) → ∀ c, Readable m c → HoldsAll c b → NotOutscored b c

/-- The lead of the second backup over the first keeps its sign when it is cut to 16 bits. -/
def LeadFits (a d : BackupScanOk) : Prop :=
  (0 < lead a d → 0 < (lead a d).bmod (2 ^ 16)) ∧
    (lead a d < 0 → HoldsAll a d → (lead a d).bmod (2 ^ 16) ≤ 0)

theorem bestNotOutscored_of_firstSecond {m : ScanMap} {a d : BackupScanOk}
    (h : FirstSecond m a d) : BestNotOutscored m ↔ (HoldsAll d a → LeadFits a d) := by
  have hfind := findBestBackup_of_firstSecond h
  have hread := readable_iff_of_firstSecond h
  have hself : ∀ b : BackupScanOk, NotOutscored b b := by
    intro b
    unfold NotOutscored
    rw [lowerCount_self]
    exact Nat.zero_le _
  constructor
  · intro hbest hall
    refine ⟨fun hpos => ?_, fun hneg hall' => ?_⟩
    · by_contra hle
      rw [challenge_eq_first a d fun h => hle h.2] at hfind
      have := (notOutscored_iff a d).mp (hbest a hfind d ((hread d).mpr (Or.inr rfl)) hall)
      omega
    · by_contra hgt
      rw [challenge_eq_second a d hall (by omega)] at hfind
      have := (notOutscored_comm_iff a d).mp (hbest d hfind a ((hread a).mpr (Or.inl rfl)) hall')
      omega
  · intro hfits b hb c hc hcb
    rw [hfind] at hb
    obtain rfl := Option.some.inj (Except.ok.inj hb)
    by_cases hwin : HoldsAll d a ∧ 0 < (lead a d).bmod (2 ^ 16)
    · rw [challenge_eq_second a d hwin.1 hwin.2] at hcb ⊢
      rcases (hread c).mp hc with rfl | rfl
      · rw [notOutscored_comm_iff]
        by_contra hneg
        have := (hfits hwin.1).2 (by omega) hcb
        omega
      · exact hself c
    · rw [challenge_eq_first a d hwin] at hcb ⊢
      rcases (hread c).mp hc with rfl | rfl
      · exact hself c
      · rw [notOutscored_iff]
        by_contra hpos
        exact hwin ⟨hcb, (hfits hcb).1 (by omega)⟩

/-- **When the choice is right**: exactly if the lead of the second backup, should it hold all
channels of the first, keeps its sign in the 16-bit score. -/
theorem bestNotOutscored_iff (m : ScanMap) : BestNotOutscored m ↔
    ∀ a d, FirstSecond m a d → HoldsAll d a → LeadFits a d := by
  constructor
  · intro hbest a d h
    exact (bestNotOutscored_of_firstSecond h).mp hbest
  · intro hfits b hb c hc
    rcases eq_or_firstSecond (readable_of_findBestBackup hb) hc with rfl | h | h
    · intro _
      unfold NotOutscored
      rw [lowerCount_self]
      exact Nat.zero_le _
    · exact (bestNotOutscored_of_firstSecond h).mpr (hfits b c h) b hb c hc
    · exact (bestNotOutscored_of_firstSecond h).mpr (hfits c b h) b hb c hc

/-! ### A score that wraps -/

/-- `n` channels, all with the commitment index `v`. -/
def uniform (n : ℕ) (hn : n ≤ 2 ^ 256) (v : ℤ) : IndexMap where
  entries := (List.range n).map fun i => ⟨BitVec.ofNat 256 i, v⟩
  nodupKeys := by
    rw [List.NodupKeys, List.keys, List.map_map]
    refine List.Nodup.map_on ?_ List.nodup_range
    intro i hi j hj h
    have hi' := List.mem_range.mp hi
    have hj' := List.mem_range.mp hj
    have := congrArg BitVec.toNat h
    simp only [Function.comp, BitVec.toNat_ofNat] at this
    rwa [Nat.mod_eq_of_lt (by omega), Nat.mod_eq_of_lt (by omega)] at this

theorem lookup_uniform {n : ℕ} {hn : n ≤ 2 ^ 256} {v : ℤ} {i : ℕ} (hi : i < n) :
    (uniform n hn v).lookup (BitVec.ofNat 256 i) = some v :=
  AList.mem_lookup_iff.mpr (List.mem_map.mpr ⟨i, List.mem_range.mpr hi, rfl⟩)

theorem lowerCount_uniform {n : ℕ} (hn : n ≤ 2 ^ 256) {v w : ℤ} (h : v < w) :
    lowerCount (uniform n hn v) (uniform n hn w) = n ∧
      higherCount (uniform n hn v) (uniform n hn w) = 0 := by
  constructor
  · have hall : ∀ e ∈ (uniform n hn v).entries,
        ((uniform n hn w).lookup e.1).any (e.2 < ·) = true := by
      intro e he
      obtain ⟨i, hi, rfl⟩ := List.mem_map.mp he
      rw [lookup_uniform (List.mem_range.mp hi)]
      simpa using h
    unfold lowerCount
    rw [List.countP_eq_length.mpr hall]
    simp [uniform]
  · unfold higherCount
    rw [List.countP_eq_zero]
    intro e he
    obtain ⟨i, hi, rfl⟩ := List.mem_map.mp he
    rw [lookup_uniform (List.mem_range.mp hi)]
    simp only [Option.any_some, decide_eq_true_eq]
    omega

/-- A local backup and an older one from Google Drive, with the same channels and higher indexes. -/
def behindMap (n : ℕ) (hn : n ≤ 2 ^ 256) : ScanMap where
  entries := [okEntry .LOCAL ⟨.LOCAL, uniform n hn 0, 2, "LOCAL-restore.sqlite.tmp", true⟩,
    okEntry .GDRIVE ⟨.GDRIVE, uniform n hn 1, 1, "GDRIVE-restore.sqlite.tmp", true⟩]
  nodupKeys := by simp [List.NodupKeys, List.keys]

/-- With 32768 channels the score wraps, and the dominated backup is found. -/
theorem not_bestNotOutscored : ¬ ∀ m : ScanMap,
    (∀ e ∈ m.entries, ∀ message, e.2 ≠ some (some (.failure message))) → BestNotOutscored m := by
  intro hall
  have hn : 32768 ≤ 2 ^ 256 := by decide
  have hbest := hall (behindMap 32768 hn) (by simp [behindMap])
  have hdate : ¬ (2 : Date) < 1 := by decide
  rw [bestNotOutscored_of_firstSecond ⟨.LOCAL, .GDRIVE, Or.inl ⟨rfl, hdate⟩⟩] at hbest
  obtain ⟨hl, hh⟩ := lowerCount_uniform hn (show (0 : ℤ) < 1 by decide)
  have hfits := (hbest fun k hk => by simpa [uniform, AList.keys, List.keys] using hk).1
  simp only [lead, hl, hh] at hfits
  exact absurd hfits (by decide)

end RestoreChannelsBackupActivity

end EclairMobile
