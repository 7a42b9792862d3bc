import Mathlib.Order.Lattice

/-!
# Actions that join

A state in a semilattice on which every action joins what it carries.  The state after a list of
actions is the least one above the start and above all that the list carries.
-/

namespace EclairMobile.Lib

variable {L M : Type*} [SemilatticeSup L]

/-- The state after a list of actions, each joining what it carries. -/
def joinAll (carries : M → L) (x : L) (ms : List M) : L := ms.foldl (fun x m => x ⊔ carries m) x

variable {carries : M → L} {x y : L} {ms : List M}

theorem joinAll_le_iff : joinAll carries x ms ≤ y ↔ x ≤ y ∧ ∀ m ∈ ms, carries m ≤ y := by
  induction ms generalizing x with
  | nil => simp [joinAll]
  | cons m ms ih =>
    have h : joinAll carries x (m :: ms) = joinAll carries (x ⊔ carries m) ms := rfl
    rw [h, ih, sup_le_iff, List.forall_mem_cons, and_assoc]

theorem carries_le_joinAll {m : M} (h : m ∈ ms) : carries m ≤ joinAll carries x ms :=
  (joinAll_le_iff.mp le_rfl).2 m h

end EclairMobile.Lib
