import Mathlib.Data.Finset.Card
import Mathlib.Data.Finset.Dedup

/-!
# Greedy choice with distinct keys

At most `n` elements of a list are taken, from the front, each with the wanted property and a key
that no element taken before has.
-/

namespace EclairMobile.Lib

variable {α κ : Type*} [DecidableEq κ] (p : α → Bool) (key : α → κ)

/-- Takes at most `n` elements, with keys that are not in `seen`. -/
def pickFrom : ℕ → List κ → List α → List α
  | _, _, [] => []
  | n, seen, a :: l =>
    if p a ∧ key a ∉ seen ∧ 0 < n then a :: pickFrom (n - 1) (key a :: seen) l
    else pickFrom n seen l

def pick (n : ℕ) (l : List α) : List α := pickFrom p key n [] l

/-- The keys of the elements with the wanted property. -/
def keysOf (l : List α) : Finset κ := ((l.filter p).map key).toFinset

variable {p key} {n : ℕ} {seen : List κ} {l : List α} {a c : α}

theorem pickFrom_cons_of_pos (h : p a ∧ key a ∉ seen ∧ 0 < n) :
    pickFrom p key n seen (a :: l) = a :: pickFrom p key (n - 1) (key a :: seen) l := if_pos h

theorem pickFrom_cons_of_neg (h : ¬ (p a ∧ key a ∉ seen ∧ 0 < n)) :
    pickFrom p key n seen (a :: l) = pickFrom p key n seen l := if_neg h

theorem mem_keysOf {k : κ} : k ∈ keysOf p key l ↔ ∃ d ∈ l, p d ∧ key d = k := by
  simp [keysOf, and_assoc]

theorem pickFrom_sublist : (pickFrom p key n seen l).Sublist l := by
  induction l generalizing n seen with
  | nil => exact List.Sublist.refl _
  | cons a l ih =>
    rw [pickFrom]
    split
    · exact ih.cons_cons a
    · exact ih.cons a

theorem of_mem_pickFrom (h : c ∈ pickFrom p key n seen l) : p c ∧ key c ∉ seen := by
  induction l generalizing n seen with
  | nil => cases h
  | cons a l ih =>
    rw [pickFrom] at h
    split at h
    · next ha =>
      rcases List.mem_cons.mp h with rfl | h
      · exact ⟨ha.1, ha.2.1⟩
      · obtain ⟨hp, hkey⟩ := ih h
        exact ⟨hp, fun hmem => hkey (List.mem_cons_of_mem _ hmem)⟩
    · exact ih h

theorem length_pickFrom_le : (pickFrom p key n seen l).length ≤ n := by
  induction l generalizing n seen with
  | nil => exact Nat.zero_le n
  | cons a l ih =>
    rw [pickFrom]
    split
    · next ha =>
      have hle : (pickFrom p key (n - 1) (key a :: seen) l).length ≤ n - 1 := ih
      rw [List.length_cons]
      omega
    · exact ih

theorem nodup_keys_pickFrom : ((pickFrom p key n seen l).map key).Nodup := by
  induction l generalizing n seen with
  | nil => exact List.nodup_nil
  | cons a l ih =>
    rw [pickFrom]
    split
    · rw [List.map_cons, List.nodup_cons]
      refine ⟨fun hmem => ?_, ih⟩
      obtain ⟨d, hd, hkey⟩ := List.mem_map.mp hmem
      exact (of_mem_pickFrom hd).2 (hkey ▸ List.mem_cons_self)
    · exact ih

/-- If fewer elements are taken than allowed, all keys are there. -/
theorem key_mem_of_length_lt (h : (pickFrom p key n seen l).length < n) (hc : c ∈ l) (hp : p c) :
    key c ∈ seen ∨ key c ∈ (pickFrom p key n seen l).map key := by
  induction l generalizing n seen with
  | nil => cases hc
  | cons a l ih =>
    by_cases ha : p a ∧ key a ∉ seen ∧ 0 < n
    · rw [pickFrom_cons_of_pos ha] at h ⊢
      rw [List.length_cons] at h
      rw [List.map_cons, List.mem_cons]
      rcases List.mem_cons.mp hc with rfl | hc
      · exact Or.inr (Or.inl rfl)
      · have hlt : (pickFrom p key (n - 1) (key a :: seen) l).length < n - 1 := by omega
        rcases ih hlt hc with hseen | hpick
        · rcases List.mem_cons.mp hseen with heq | hseen
          · exact Or.inr (Or.inl heq)
          · exact Or.inl hseen
        · exact Or.inr (Or.inr hpick)
    · rw [pickFrom_cons_of_neg ha] at h ⊢
      rcases List.mem_cons.mp hc with rfl | hc
      · left
        by_contra hseen
        exact ha ⟨hp, hseen, by omega⟩
      · exact ih h hc

/-! ### Which elements are taken -/

/-- The first element with its key, with fewer than `n` other keys before it, none of them in
`seen`. -/
def FirstWithKey (p : α → Bool) (key : α → κ) (n : ℕ) (seen : List κ) (l : List α) (c : α) : Prop :=
  ∃ before after, l = before ++ c :: after ∧ p c ∧ key c ∉ seen ∧ key c ∉ keysOf p key before ∧
    (keysOf p key before \ seen.toFinset).card < n

theorem keysOf_cons_of_pos (h : p a) : keysOf p key (a :: l) = insert (key a) (keysOf p key l) := by
  simp [keysOf, h]

theorem keysOf_cons_of_neg (h : ¬ p a) : keysOf p key (a :: l) = keysOf p key l := by
  simp [keysOf, h]

theorem keysOf_subset_cons : keysOf p key l ⊆ keysOf p key (a :: l) := by
  intro k hk
  obtain ⟨d, hd, hp, hkey⟩ := mem_keysOf.mp hk
  exact mem_keysOf.mpr ⟨d, List.mem_cons_of_mem _ hd, hp, hkey⟩

/-- The key of an element that is taken counts once. -/
theorem card_keysOf_cons (hp : p a) (hseen : key a ∉ seen) :
    (keysOf p key (a :: l) \ seen.toFinset).card =
      (keysOf p key l \ (key a :: seen).toFinset).card + 1 := by
  have hset : keysOf p key (a :: l) \ seen.toFinset =
      insert (key a) (keysOf p key l \ (key a :: seen).toFinset) := by
    rw [keysOf_cons_of_pos hp]
    ext k
    by_cases hk : k = key a
    · simp [hk, hseen]
    · simp [hk]
  rw [hset, Finset.card_insert_of_notMem (by simp)]

theorem firstWithKey_cons_of_pos (h : p a ∧ key a ∉ seen ∧ 0 < n) :
    FirstWithKey p key n seen (a :: l) c ↔
      c = a ∨ FirstWithKey p key (n - 1) (key a :: seen) l c := by
  obtain ⟨hp, hseen, hn⟩ := h
  constructor
  · rintro ⟨_ | ⟨a', before⟩, after, hl, hpc, hkey, hfirst, hcard⟩
    · cases hl
      exact Or.inl rfl
    · cases hl
      right
      rw [card_keysOf_cons hp hseen] at hcard
      rw [keysOf_cons_of_pos hp, Finset.mem_insert, not_or] at hfirst
      refine ⟨before, after, rfl, hpc, ?_, hfirst.2, by omega⟩
      exact List.mem_cons.not.mpr (not_or.mpr ⟨hfirst.1, hkey⟩)
  · rintro (rfl | ⟨before, after, rfl, hpc, hkey, hfirst, hcard⟩)
    · exact ⟨[], l, rfl, hp, hseen, by simp [keysOf], by simpa [keysOf] using hn⟩
    · obtain ⟨hne, hkey⟩ := not_or.mp (List.mem_cons.not.mp hkey)
      refine ⟨a :: before, after, rfl, hpc, hkey, ?_, ?_⟩
      · rw [keysOf_cons_of_pos hp, Finset.mem_insert]
        exact not_or.mpr ⟨hne, hfirst⟩
      · rw [card_keysOf_cons hp hseen]
        omega

theorem firstWithKey_cons_of_neg (h : ¬ (p a ∧ key a ∉ seen ∧ 0 < n)) :
    FirstWithKey p key n seen (a :: l) c ↔ FirstWithKey p key n seen l c := by
  constructor
  · rintro ⟨_ | ⟨a', before⟩, after, hl, hpc, hkey, hfirst, hcard⟩
    · cases hl
      exact absurd ⟨hpc, hkey, by omega⟩ h
    · cases hl
      refine ⟨before, after, rfl, hpc, hkey, fun hmem => hfirst (keysOf_subset_cons hmem), ?_⟩
      exact lt_of_le_of_lt (Finset.card_le_card
        (Finset.sdiff_subset_sdiff keysOf_subset_cons (Finset.Subset.refl _))) hcard
  · rintro ⟨before, after, rfl, hpc, hkey, hfirst, hcard⟩
    refine ⟨a :: before, after, rfl, hpc, hkey, ?_⟩
    by_cases hp : p a
    · have hseen : key a ∈ seen := by
        by_contra hseen
        exact h ⟨hp, hseen, by omega⟩
      rw [keysOf_cons_of_pos hp, Finset.insert_sdiff_of_mem _ (List.mem_toFinset.mpr hseen),
        Finset.mem_insert]
      refine ⟨not_or.mpr ⟨fun heq => ?_, hfirst⟩, hcard⟩
      exact hkey (heq ▸ hseen)
    · rw [keysOf_cons_of_neg hp]
      exact ⟨hfirst, hcard⟩

theorem mem_pickFrom_iff : c ∈ pickFrom p key n seen l ↔ FirstWithKey p key n seen l c := by
  induction l generalizing n seen with
  | nil => simp [pickFrom, FirstWithKey]
  | cons a l ih =>
    by_cases ha : p a ∧ key a ∉ seen ∧ 0 < n
    · rw [pickFrom_cons_of_pos ha, firstWithKey_cons_of_pos ha, List.mem_cons, ih]
    · rw [pickFrom_cons_of_neg ha, firstWithKey_cons_of_neg ha, ih]

end EclairMobile.Lib
