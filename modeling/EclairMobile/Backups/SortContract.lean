import EclairMobile.Lib.Comparator
import EclairMobile.Backups.Verdicts

/-!
# The comparator of sortBackupDateDesc

Two entries that are not readable are each greater than the other.  On readable entries the
comparator compares dates and keeps the contract of `Collections.sort`; a sort may refuse a
comparator that does not, or leave the entries in any order.
-/

namespace EclairMobile

namespace RestoreChannelsBackupActivity

open Lib

/-! ### The order of the result -/

/-- The second entry is not readable, or both are and it is not more recent.  If all pairs of a list
are so, the readable ones come first, most recent first, and all others behind them. -/
def Precedes (x y : ScanEntry) : Prop :=
  ∀ o', y.2 = some (some (.ok o')) →
    ∃ o, x.2 = some (some (.ok o)) ∧ o'.lastModified ≤ o.lastModified

theorem Precedes.trans {x y z : ScanEntry} (hxy : Precedes x y) (hyz : Precedes y z) :
    Precedes x z := by
  intro o'' hz
  obtain ⟨o', hy, hle'⟩ := hyz o'' hz
  obtain ⟨o, hx, hle⟩ := hxy o' hy
  exact ⟨o, hx, hle'.trans hle⟩

/-- Where an entry is inserted, it precedes the one behind it. -/
theorem precedes_of_compare_neg {x y : ScanEntry} {c : ℤ} (h : compare x y = .ok c) (hc : c < 0) :
    Precedes x y := by
  unfold compare at h
  split at h
  · cases h
  · next o hx =>
    intro o' hy
    rw [hy] at h
    obtain rfl := Except.ok.inj h
    exact ⟨o, hx, (compareTo_neg_iff.mp hc).le⟩
  · cases h
    omega

/-- Where it is not inserted, the entry there precedes it. -/
theorem precedes_of_compare_nonneg {x y : ScanEntry} {c : ℤ} (h : compare x y = .ok c)
    (hc : ¬ c < 0) : Precedes y x := by
  intro o hx
  simp only [compare, hx] at h
  split at h
  · cases h
  · next o' hy =>
    obtain rfl := Except.ok.inj h
    rw [compareTo_neg_iff, not_lt] at hc
    exact ⟨o', hy, hc⟩
  · cases h
    omega

theorem insertEntry_pairwise {x : ScanEntry} {l l' : List ScanEntry}
    (h : insertEntry x l = .ok l') (hl : l.Pairwise Precedes) : l'.Pairwise Precedes := by
  induction l generalizing l' with
  | nil =>
    obtain rfl := Except.ok.inj h
    exact List.pairwise_singleton _ _
  | cons y ys ih =>
    obtain ⟨hy, hys⟩ := List.pairwise_cons.mp hl
    simp only [insertEntry] at h
    split at h
    · cases h
    · next c hcompare =>
      split at h
      · next hc =>
        obtain rfl := Except.ok.inj h
        have hxy := precedes_of_compare_neg hcompare hc
        refine List.pairwise_cons.mpr ⟨fun z hz => ?_, hl⟩
        rcases List.mem_cons.mp hz with rfl | hz
        · exact hxy
        · exact hxy.trans (hy z hz)
      · next hc =>
        cases hi : insertEntry x ys with
        | error e =>
          rw [hi] at h
          cases h
        | ok zs =>
          rw [hi] at h
          obtain rfl := Except.ok.inj h
          refine List.pairwise_cons.mpr ⟨fun z hz => ?_, ih hi hys⟩
          rcases List.mem_cons.mp ((insertEntry_perm hi).mem_iff.mp hz) with rfl | hz
          · exact precedes_of_compare_nonneg hcompare hc
          · exact hy z hz

theorem sortBackupDateDesc_pairwise {l l' : List ScanEntry} (h : sortBackupDateDesc l = .ok l') :
    l'.Pairwise Precedes := by
  have key : ∀ (l acc l' : List ScanEntry), acc.Pairwise Precedes →
      l.foldlM (fun sorted x => insertEntry x sorted) acc = .ok l' → l'.Pairwise Precedes := by
    intro l
    induction l with
    | nil =>
      intro acc l' hacc h
      obtain rfl := Except.ok.inj h
      exact hacc
    | cons x xs ih =>
      intro acc l' hacc h
      rw [List.foldlM_cons] at h
      cases hi : insertEntry x acc with
      | error e =>
        rw [hi] at h
        cases h
      | ok acc' =>
        rw [hi] at h
        exact ih acc' l' (insertEntry_pairwise hi hacc) h
  exact key l [] l' List.Pairwise.nil h

/-! ### The contract -/

/-- The entry holds a readable backup. -/
def IsReadable (e : ScanEntry) : Prop := ∃ o, e.2 = some (some (.ok o))

/-- The later of two dates comes first. -/
def dateKey (e : ScanEntry) : Dateᵒᵈ :=
  OrderDual.toDual (match e.2 with
    | some (some (.ok o)) => o.lastModified
    | _ => 0)

theorem compareTo_pos_iff {d e : Date} : 0 < compareTo d e ↔ e < d := by
  unfold compareTo
  split_ifs with hlt heq
  · simp [hlt.le]
  · simp [heq]
  · simp only [zero_lt_one, true_iff]
    exact lt_of_le_of_ne (not_lt.mp hlt) (Ne.symm heq)

theorem comparesKeys_compare {s : Set ScanEntry} (h : ∀ e ∈ s, IsReadable e) :
    ComparesKeys compare dateKey s := by
  intro x hx y hy
  obtain ⟨tx, vx⟩ := x
  obtain ⟨ty, vy⟩ := y
  obtain ⟨o, rfl⟩ := h _ hx
  obtain ⟨o', rfl⟩ := h _ hy
  exact ⟨_, rfl, compareTo_neg_iff, compareTo_pos_iff⟩

theorem isReadable_of_contract {s : Set ScanEntry} (h : Contract compare s) {e : ScanEntry}
    (he : e ∈ s) : IsReadable e := by
  obtain ⟨c, d, hc, hd, hsgn⟩ := h.sgn e he e he
  obtain rfl : c = d := Except.ok.inj (hc.symm.trans hd)
  have h0 : c.sign = 0 := by omega
  rw [Int.sign_eq_zero_iff_zero] at h0
  subst h0
  unfold compare at hc
  split at hc
  · cases hc
  · next o ho => exact ⟨o, ho⟩
  · cases hc

/-- The comparator keeps the contract on the entries, and the result holds them in order. -/
def SortsByContract (l : List ScanEntry) : Prop :=
  Contract compare {e | e ∈ l} ∧
    ∃ l', sortBackupDateDesc l = .ok l' ∧ l'.Perm l ∧ l'.Pairwise Precedes

/-- **The sort is one by contract exactly if all entries are readable.** -/
theorem sortsByContract_iff (l : List ScanEntry) :
    SortsByContract l ↔ ∀ e ∈ l, IsReadable e := by
  constructor
  · rintro ⟨hcontract, -⟩ e he
    exact isReadable_of_contract hcontract he
  · intro h
    have hnull : ∀ e ∈ l, e.2 ≠ none := by
      intro e he
      obtain ⟨o, ho⟩ := h e he
      simp [ho]
    obtain ⟨l', hl'⟩ := sortBackupDateDesc_ok hnull
    exact ⟨(comparesKeys_compare h).contract, l', hl', sortBackupDateDesc_perm hl',
      sortBackupDateDesc_pairwise hl'⟩

/-- Two scans that found no backup: one failed, the other found nothing. -/
def unreadableEntries : List ScanEntry :=
  [⟨.LOCAL, some (some (.failure "could not read backup"))⟩, ⟨.GDRIVE, some none⟩]

/-- Each of the two is greater than the other. -/
theorem not_sortsByContract :
    ¬ ∀ l : List ScanEntry, (∀ e ∈ l, e.2 ≠ none) → SortsByContract l := by
  intro h
  obtain ⟨hcontract, -⟩ := h unreadableEntries (by simp [unreadableEntries])
  obtain ⟨c, d, hc, hd, hsgn⟩ := hcontract.sgn _ List.mem_cons_self _
    (List.mem_cons_of_mem _ List.mem_cons_self)
  cases hc
  cases hd
  exact absurd hsgn (by decide)

end RestoreChannelsBackupActivity

end EclairMobile
