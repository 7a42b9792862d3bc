import Mathlib.Data.List.Basic

/-!
# Counting in lists that change

How many elements of a list meet a condition, when one of them is replaced or all of them are
mapped.  The equations are additive, so that `omega` can use them on natural numbers.
-/

namespace EclairMobile.Lib

variable {α : Type*}

/-- Replacing an element moves the count by the two elements. -/
theorem countP_set_add {l : List α} {i : ℕ} {a : α} (hi : l[i]? = some a) (b : α) (p : α → Bool) :
    (l.set i b).countP p + (if p a then 1 else 0) = l.countP p + (if p b then 1 else 0) := by
  obtain ⟨hlt, ha⟩ := List.getElem?_eq_some_iff.mp hi
  rw [List.countP_set hlt, ha]
  by_cases hp : p a = true
  · have hpos : 0 < l.countP p := List.countP_pos_iff.mpr ⟨a, ha ▸ List.getElem_mem hlt, hp⟩
    simp only [hp, if_true]
    omega
  · simp only [hp, Bool.false_eq_true, if_false]
    omega

theorem countP_map_le {f : α → α} {p : α → Bool} (l : List α) (h : ∀ a ∈ l, p (f a) → p a) :
    (l.map f).countP p ≤ l.countP p := by
  rw [List.countP_map]
  exact List.countP_mono_left h

theorem forall_mem_set {l : List α} {i : ℕ} {b : α} {P : α → Prop} (h : ∀ a ∈ l, P a) (hb : P b) :
    ∀ a ∈ l.set i b, P a := by
  intro a ha
  rcases List.mem_or_eq_of_mem_set ha with ha | rfl
  · exact h a ha
  · exact hb

end EclairMobile.Lib
