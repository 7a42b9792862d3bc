import Mathlib.Data.Set.Defs
import Mathlib.Data.Int.Order.Basic
import Mathlib.Order.Lattice

/-!
# Comparators that may throw

The contract that a sort expects of a comparator, on the elements that it is given.  A comparator
that compares the keys of its arguments keeps it.
-/

namespace EclairMobile.Lib

variable {α ε κ : Type*}

/-- The contract of a comparator on the elements of `s`: both orders of two elements have opposite
signs, being greater is transitive, and elements that compare as equal compare alike to all others.
It must not throw on them. -/
structure Contract (cmp : α → α → Except ε ℤ) (s : Set α) : Prop where
  sgn : ∀ x ∈ s, ∀ y ∈ s, ∃ c d, cmp x y = .ok c ∧ cmp y x = .ok d ∧ c.sign = - d.sign
  trans : ∀ x ∈ s, ∀ y ∈ s, ∀ z ∈ s, ∀ c d e, cmp x y = .ok c → cmp y z = .ok d →
    cmp x z = .ok e → 0 < c → 0 < d → 0 < e
  alike : ∀ x ∈ s, ∀ y ∈ s, ∀ z ∈ s, ∀ c d, cmp x y = .ok 0 → cmp x z = .ok c →
    cmp y z = .ok d → c.sign = d.sign

/-- On the elements of `s`, the comparator compares keys. -/
def ComparesKeys [LinearOrder κ] (cmp : α → α → Except ε ℤ) (key : α → κ) (s : Set α) : Prop :=
  ∀ x ∈ s, ∀ y ∈ s, ∃ c, cmp x y = .ok c ∧ (c < 0 ↔ key x < key y) ∧ (0 < c ↔ key y < key x)

namespace ComparesKeys

variable [LinearOrder κ] {cmp : α → α → Except ε ℤ} {key : α → κ} {s : Set α} {x y : α} {c : ℤ}

theorem neg_iff (h : ComparesKeys cmp key s) (hx : x ∈ s) (hy : y ∈ s) (hc : cmp x y = .ok c) :
    c < 0 ↔ key x < key y := by
  obtain ⟨c', hc', hneg, -⟩ := h x hx y hy
  rwa [Except.ok.inj (hc.symm.trans hc')]

theorem pos_iff (h : ComparesKeys cmp key s) (hx : x ∈ s) (hy : y ∈ s) (hc : cmp x y = .ok c) :
    0 < c ↔ key y < key x := by
  obtain ⟨c', hc', -, hpos⟩ := h x hx y hy
  rwa [Except.ok.inj (hc.symm.trans hc')]

/-- **A comparator of keys keeps the contract.** -/
theorem contract (h : ComparesKeys cmp key s) : Contract cmp s where
  sgn x hx y hy := by
    obtain ⟨c, hc, hneg, hpos⟩ := h x hx y hy
    obtain ⟨d, hd, hneg', hpos'⟩ := h y hy x hx
    refine ⟨c, d, hc, hd, ?_⟩
    rw [← hpos] at hneg'
    rw [← hneg] at hpos'
    rcases lt_trichotomy c 0 with hlt | h0 | hlt
    · rw [Int.sign_eq_neg_one_of_neg hlt, Int.sign_eq_one_of_pos (hpos'.mpr hlt)]
    · have hd0 : d = 0 := by omega
      rw [h0, hd0]
      rfl
    · rw [Int.sign_eq_one_of_pos hlt, Int.sign_eq_neg_one_of_neg (hneg'.mpr hlt)]
      rfl
  trans x hx y hy z hz c d e hc hd he hcpos hdpos := by
    rw [h.pos_iff hx hy hc] at hcpos
    rw [h.pos_iff hy hz hd] at hdpos
    rw [h.pos_iff hx hz he]
    exact lt_trans hdpos hcpos
  alike x hx y hy z hz c d hxy hc hd := by
    have hkey : key x = key y := by
      refine le_antisymm ?_ ?_
      · exact not_lt.mp fun hlt => by simpa using (h.pos_iff hx hy hxy).mpr hlt
      · exact not_lt.mp fun hlt => by simpa using (h.neg_iff hx hy hxy).mpr hlt
    have hneg := (h.neg_iff hx hz hc).trans (hkey ▸ (h.neg_iff hy hz hd).symm)
    have hpos := (h.pos_iff hx hz hc).trans (hkey ▸ (h.pos_iff hy hz hd).symm)
    rcases lt_trichotomy c 0 with hlt | h0 | hlt
    · rw [Int.sign_eq_neg_one_of_neg hlt, Int.sign_eq_neg_one_of_neg (hneg.mp hlt)]
    · have hd0 : d = 0 := by omega
      rw [h0, hd0]
    · rw [Int.sign_eq_one_of_pos hlt, Int.sign_eq_one_of_pos (hpos.mp hlt)]

end ComparesKeys

end EclairMobile.Lib
