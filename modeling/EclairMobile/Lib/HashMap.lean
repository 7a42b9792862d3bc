import Mathlib.Data.List.AList

/-!
# Maps that are iterated in an order

An association list whose entries stand in the order in which a hash map iterates over them: by
bucket, and within a bucket in the order of insertion.  Writing a key that is present replaces its
value in place.
-/

namespace EclairMobile.Lib

variable {α : Type*} {β : α → Type*}

/-- The entry goes after all those of its own bucket or an earlier one. -/
def insertByBucket (bucket : α → ℕ) (e : Sigma β) : List (Sigma β) → List (Sigma β)
  | [] => [e]
  | x :: l => if bucket e.1 < bucket x.1 then e :: x :: l else x :: insertByBucket bucket e l

theorem insertByBucket_perm (bucket : α → ℕ) (e : Sigma β) (l : List (Sigma β)) :
    (insertByBucket bucket e l).Perm (e :: l) := by
  induction l with
  | nil => exact List.Perm.refl _
  | cons x l ih =>
    unfold insertByBucket
    split
    · exact List.Perm.refl _
    · exact (ih.cons x).trans (List.Perm.swap e x l)

variable [DecidableEq α]

/-- `HashMap.put`. -/
def put (bucket : α → ℕ) (a : α) (b : β a) (m : AList β) : AList β :=
  if h : a ∈ m then m.replace a b
  else
    { entries := insertByBucket bucket ⟨a, b⟩ m.entries
      nodupKeys := by
        rw [List.perm_nodupKeys (insertByBucket_perm bucket ⟨a, b⟩ m.entries), List.nodupKeys_cons]
        exact ⟨h, m.nodupKeys⟩ }

theorem kreplace_perm (a : α) (b : β a) {l : List (Sigma β)} (h : a ∈ l.keys) :
    (l.kreplace a b).Perm (⟨a, b⟩ :: l.kerase a) := by
  induction l with
  | nil => simp at h
  | cons x l ih =>
    by_cases hx : a = x.1
    · have hreplace : (x :: l).kreplace a b = ⟨a, b⟩ :: l := by
        unfold List.kreplace
        exact List.lookmap_cons_some _ _ (by simp [hx])
      rw [hreplace, List.kerase_cons_eq hx]
    · have hl : a ∈ l.keys := by
        rw [List.keys_cons, List.mem_cons] at h
        exact h.resolve_left hx
      have hreplace : (x :: l).kreplace a b = x :: l.kreplace a b := by
        unfold List.kreplace
        exact List.lookmap_cons_none _ _ (by simp [hx])
      rw [hreplace, List.kerase_cons_ne hx]
      exact ((ih hl).cons x).trans (List.Perm.swap ⟨a, b⟩ x _)

/-- Up to the order, a key is inserted. -/
theorem put_perm (bucket : α → ℕ) (a : α) (b : β a) (m : AList β) :
    (put bucket a b m).entries.Perm (m.insert a b).entries := by
  unfold put
  rw [AList.entries_insert]
  by_cases h : a ∈ m
  · rw [dif_pos h]
    exact kreplace_perm a b h
  · rw [dif_neg h, List.kerase_of_notMem_keys h]
    exact insertByBucket_perm bucket ⟨a, b⟩ m.entries

section

variable (bucket : α → ℕ) (a : α) (b : β a) (m : AList β)

@[simp] theorem lookup_put : (put bucket a b m).lookup a = some b := by
  rw [AList.perm_lookup (put_perm bucket a b m), AList.lookup_insert]

theorem lookup_put_ne {a' : α} (h : a' ≠ a) : (put bucket a b m).lookup a' = m.lookup a' := by
  rw [AList.perm_lookup (put_perm bucket a b m), AList.lookup_insert_ne h]

end

end EclairMobile.Lib
