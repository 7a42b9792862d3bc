import Mathlib.Data.List.MinMax
import Mathlib.Data.List.Nodup
import Mathlib.Order.Lattice.Nat

/-!
# Tables with a primary key and a unique index

A table holds entities with an integer primary key (given by the database when the entity has none)
and one unique index.  `insertOrReplace` follows `INSERT OR REPLACE`: the rows that conflict on the
primary key or on the unique index are deleted, then the row is inserted.  Both constraints are
fields of `Table`, so that no operation has to be shown to keep them a second time.
-/

namespace EclairMobile.Lib

/-- An entity type: its nullable primary key and the columns of its unique index. -/
class Entity (R : Type) (K : outParam Type) where
  id : R → Option ℕ
  setId : ℕ → R → R
  key : R → K
  id_setId : ∀ i r, id (setId i r) = some i
  key_setId : ∀ i r, key (setId i r) = key r

/-- Rows in which every entity has a primary key and both constraints hold. -/
structure Table (R : Type) {K : Type} [Entity R K] where
  rows : List R
  hasId : ∀ r ∈ rows, (Entity.id r).isSome
  ids : (rows.map Entity.id).Nodup
  keys : (rows.map Entity.key).Nodup

namespace Table

variable {R K : Type} [Entity R K]

/-- The table without rows. -/
def empty : Table R := ⟨[], by simp, by simp, by simp⟩

theorem key_inj (t : Table R) {q r : R} (hq : q ∈ t.rows) (hr : r ∈ t.rows)
    (h : Entity.key q = Entity.key r) : q = r := List.inj_on_of_nodup_map t.keys hq hr h

theorem id_inj (t : Table R) {q r : R} (hq : q ∈ t.rows) (hr : r ∈ t.rows)
    (h : Entity.id q = Entity.id r) : q = r := List.inj_on_of_nodup_map t.ids hq hr h

/-! ### The primary key of a new row -/

/-- The key the database gives to a new row: one more than the largest in use. -/
def nextId (t : Table R) : ℕ := (t.rows.map fun r => (Entity.id r).getD 0).foldr max ⊥ + 1

theorem id_lt_nextId (t : Table R) {r : R} {i : ℕ} (hr : r ∈ t.rows) (hi : Entity.id r = some i) :
    i < t.nextId := by
  have h := List.le_max_of_le (List.mem_map_of_mem (f := fun r => (Entity.id r).getD 0) hr) le_rfl
  rw [hi] at h
  exact Nat.lt_succ_of_le h

theorem id_ne_nextId (t : Table R) {r : R} (hr : r ∈ t.rows) : Entity.id r ≠ some t.nextId :=
  fun h => absurd (t.id_lt_nextId hr h) (lt_irrefl _)

/-! ### Looking a row up by the unique index -/

section Get

variable [DecidableEq K]

/-- The row of an index value, if there is one. -/
def get? (t : Table R) (k : K) : Option R := t.rows.find? fun r => Entity.key r = k

theorem get?_eq_some_iff (t : Table R) {k : K} {r : R} :
    t.get? k = some r ↔ r ∈ t.rows ∧ Entity.key r = k := by
  constructor
  · intro h
    exact ⟨List.mem_of_find?_eq_some h, by simpa using List.find?_some h⟩
  · rintro ⟨hr, hk⟩
    cases hf : t.get? k with
    | none =>
      have := List.find?_eq_none.mp hf r hr
      simp [hk] at this
    | some q =>
      have hq : q ∈ t.rows := List.mem_of_find?_eq_some hf
      have hqk : Entity.key q = k := by simpa using List.find?_some hf
      rw [t.key_inj hq hr (hqk.trans hk.symm)]

theorem mem_of_get? {t : Table R} {k : K} {r : R} (h : t.get? k = some r) : r ∈ t.rows :=
  (t.get?_eq_some_iff.mp h).1

theorem key_of_get? {t : Table R} {k : K} {r : R} (h : t.get? k = some r) : Entity.key r = k :=
  (t.get?_eq_some_iff.mp h).2

theorem get?_congr {t u : Table R} {k : K}
    (h : ∀ r, Entity.key r = k → (r ∈ t.rows ↔ r ∈ u.rows)) : t.get? k = u.get? k := by
  ext r
  rw [get?_eq_some_iff, get?_eq_some_iff]
  constructor
  · rintro ⟨hr, hk⟩
    exact ⟨(h r hk).mp hr, hk⟩
  · rintro ⟨hr, hk⟩
    exact ⟨(h r hk).mpr hr, hk⟩

end Get

theorem length_filter_key_le (t : Table R) [DecidableEq K] (k : K) :
    (t.rows.filter fun r => Entity.key r = k).length ≤ 1 := by
  have hall : ∀ x ∈ (t.rows.filter fun r => Entity.key r = k).map Entity.key, x = k := by
    intro x hx
    obtain ⟨r, hr, rfl⟩ := List.mem_map.mp hx
    simpa using (List.mem_filter.mp hr).2
  have hnd := t.keys.sublist (List.filter_sublist (p := fun r => Entity.key r = k) |>.map _)
  rw [List.eq_replicate_of_mem hall, List.nodup_replicate, List.length_map] at hnd
  exact hnd

/-! ### Deleting rows -/

/-- `DELETE ... WHERE p`. -/
def deleteWhere (t : Table R) (p : R → Bool) : Table R where
  rows := t.rows.filter fun r => !p r
  hasId r hr := t.hasId r (List.mem_of_mem_filter hr)
  ids := t.ids.sublist (List.filter_sublist.map _)
  keys := t.keys.sublist (List.filter_sublist.map _)

@[simp] theorem mem_deleteWhere {t : Table R} {p : R → Bool} {r : R} :
    r ∈ (t.deleteWhere p).rows ↔ r ∈ t.rows ∧ p r = false := by
  simp [deleteWhere]

theorem get?_deleteWhere [DecidableEq K] (t : Table R) (p : R → Bool) (k : K) :
    (t.deleteWhere p).get? k = (t.get? k).filter fun r => !p r := by
  ext r
  simp only [get?_eq_some_iff, mem_deleteWhere, Option.filter_eq_some_iff, Bool.not_eq_true']
  tauto

/-! ### Insert or replace -/

section Stored

/-- The entity as it is stored: with its own key, or with a new one. -/
def stored (t : Table R) (r : R) : R := Entity.setId ((Entity.id r).getD t.nextId) r

@[simp] theorem key_stored (t : Table R) (r : R) : Entity.key (t.stored r) = Entity.key r :=
  Entity.key_setId _ _

theorem id_stored (t : Table R) (r : R) :
    Entity.id (t.stored r) = some ((Entity.id r).getD t.nextId) := Entity.id_setId _ _

/-- An entity that is new, or that still carries the key of the row with its index value: saving it
replaces no other row. -/
def Fits (t : Table R) (r : R) : Prop :=
  ∀ q ∈ t.rows, Entity.id q = Entity.id r → Entity.key q = Entity.key r

theorem Fits.of_id_none {t : Table R} {r : R} (h : Entity.id r = none) : t.Fits r := by
  intro q hq he
  have := t.hasId q hq
  rw [he, h] at this
  cases this

theorem Fits.id_ne_stored {t : Table R} {r q : R} (h : t.Fits r) (hq : q ∈ t.rows)
    (hk : Entity.key q ≠ Entity.key r) : Entity.id q ≠ Entity.id (t.stored r) := by
  rw [id_stored]
  cases hr : Entity.id r with
  | none => simpa using t.id_ne_nextId hq
  | some i =>
    intro he
    exact hk (h q hq (by simpa [hr] using he))

end Stored

section Insert

variable [DecidableEq K]

/-- A row that was read and changed outside its key columns fits. -/
theorem Fits.of_get? {t : Table R} {k : K} {r q : R} (h : t.get? k = some q)
    (hid : Entity.id r = Entity.id q) (hkey : Entity.key r = k) : t.Fits r := by
  intro p hp he
  rw [t.id_inj hp (mem_of_get? h) (he.trans hid), key_of_get? h, hkey]

/-- The rows that survive the insertion of `r`. -/
def keep (t : Table R) (r q : R) : Bool :=
  decide (Entity.id q ≠ Entity.id (t.stored r)) && decide (Entity.key q ≠ Entity.key r)

/-- `INSERT OR REPLACE`. -/
def insertOrReplace (t : Table R) (r : R) : Table R where
  rows := t.rows.filter (t.keep r) ++ [t.stored r]
  hasId q hq := by
    rcases List.mem_append.mp hq with h | h
    · exact t.hasId q (List.mem_of_mem_filter h)
    · rw [List.mem_singleton.mp h, id_stored]
      rfl
  ids := by
    rw [List.map_append, List.map_singleton]
    refine (t.ids.sublist (List.filter_sublist.map _)).append (List.nodup_singleton _) ?_
    rw [List.disjoint_singleton]
    intro h
    obtain ⟨q, hq, he⟩ := List.mem_map.mp h
    have := (List.mem_filter.mp hq).2
    simp [keep, he] at this
  keys := by
    rw [List.map_append, List.map_singleton]
    refine (t.keys.sublist (List.filter_sublist.map _)).append (List.nodup_singleton _) ?_
    rw [List.disjoint_singleton]
    intro h
    obtain ⟨q, hq, he⟩ := List.mem_map.mp h
    have := (List.mem_filter.mp hq).2
    simp [keep, he] at this

theorem mem_insertOrReplace {t : Table R} {r q : R} :
    q ∈ (t.insertOrReplace r).rows ↔
      (q ∈ t.rows ∧ Entity.id q ≠ Entity.id (t.stored r) ∧ Entity.key q ≠ Entity.key r) ∨
        q = t.stored r := by
  simp [insertOrReplace, keep]

theorem get?_insertOrReplace_self (t : Table R) (r : R) :
    (t.insertOrReplace r).get? (Entity.key r) = some (t.stored r) := by
  rw [get?_eq_some_iff]
  exact ⟨mem_insertOrReplace.mpr (Or.inr rfl), key_stored t r⟩

theorem get?_insertOrReplace_of_ne {t : Table R} {r : R} {k : K} (hfit : t.Fits r)
    (hk : k ≠ Entity.key r) : (t.insertOrReplace r).get? k = t.get? k := by
  refine get?_congr fun q hq => ?_
  have hne : Entity.key q ≠ Entity.key r := hq ▸ hk
  rw [mem_insertOrReplace]
  constructor
  · rintro (h | rfl)
    · exact h.1
    · simp at hne
  · intro h
    exact Or.inl ⟨h, hfit.id_ne_stored h hne, hne⟩

theorem get?_insertOrReplace (t : Table R) (r : R) (k : K) :
    (t.insertOrReplace r).get? k =
      if k = Entity.key r then some (t.stored r)
      else (t.get? k).filter fun q => Entity.id q ≠ Entity.id (t.stored r) := by
  split
  · next h =>
    rw [h]
    exact t.get?_insertOrReplace_self r
  · next h =>
    ext q
    rw [get?_eq_some_iff, mem_insertOrReplace, Option.filter_eq_some_iff, get?_eq_some_iff]
    constructor
    · rintro ⟨⟨hq, hid, -⟩ | rfl, hk⟩
      · exact ⟨⟨hq, hk⟩, by simpa using hid⟩
      · exact absurd (hk.symm.trans (key_stored t r)) h
    · rintro ⟨⟨hq, hk⟩, hid⟩
      exact ⟨Or.inl ⟨hq, by simpa using hid, fun he => h (hk.symm.trans he)⟩, hk⟩

/-- The rows selected by a condition that no row with the saved index value meets are untouched. -/
theorem filter_insertOrReplace {t : Table R} {r : R} {p : R → Bool} (hfit : t.Fits r)
    (hp : ∀ q, Entity.key q = Entity.key r → p q = false) :
    (t.insertOrReplace r).rows.filter p = t.rows.filter p := by
  have hlast : [t.stored r].filter p = [] := by simp [hp _ (key_stored t r)]
  simp only [insertOrReplace, List.filter_append, List.filter_filter, hlast, List.append_nil]
  refine List.filter_congr fun q hq => ?_
  cases hpq : p q with
  | false => simp
  | true =>
    have hne : Entity.key q ≠ Entity.key r := fun h => by simp [hp q h] at hpq
    simp [keep, hne, hfit.id_ne_stored hq hne]

end Insert

/-! ### Update -/

/-- A map that only moves elements outside a condition does not change what the condition selects.
-/
theorem filter_map_eq {α : Type} {f : α → α} {p : α → Bool} {l : List α}
    (h : ∀ x ∈ l, f x = x ∨ (p x = false ∧ p (f x) = false)) :
    (l.map f).filter p = l.filter p := by
  induction l with
  | nil => rfl
  | cons x xs ih =>
    have hxs := ih fun y hy => h y (List.mem_cons_of_mem _ hy)
    rcases h x List.mem_cons_self with hx | ⟨hx, hfx⟩
    · simp only [List.map_cons, List.filter_cons, hx, hxs]
    · simp [hx, hfx, hxs]

section Update

variable [DecidableEq K]

/-- The row is in the way of an update to `r`. -/
def blocks (r q : R) : Bool :=
  decide (Entity.id q ≠ Entity.id r) && decide (Entity.key q = Entity.key r)

/-- `UPDATE ... WHERE _id = ?`.  An update that violates the unique index raises an exception and
changes nothing. -/
def update (t : Table R) (r : R) : Table R :=
  if h : t.rows.any (blocks r) then t else
    { rows := t.rows.map fun q => if Entity.id q = Entity.id r then r else q
      hasId := by
        intro q hq
        obtain ⟨p, hp, rfl⟩ := List.mem_map.mp hq
        split
        · next he => rw [← he]; exact t.hasId p hp
        · exact t.hasId p hp
      ids := by
        rw [List.map_map]
        have he : t.rows.map (Entity.id ∘ fun q => if Entity.id q = Entity.id r then r else q) =
            t.rows.map Entity.id := by
          refine List.map_congr_left fun q _ => ?_
          simp only [Function.comp]
          split
          · next hq => exact hq.symm
          · rfl
        rw [he]
        exact t.ids
      keys := by
        rw [List.map_map]
        refine List.Nodup.map_on ?_ (List.Nodup.of_map _ t.keys)
        simp only [List.any_eq_true, not_exists, not_and] at h
        intro p hp q hq he
        simp only [Function.comp] at he
        split at he <;> split at he
        · next hpr hqr => exact t.id_inj hp hq (hpr.trans hqr.symm)
        · next hpr hqr => exact absurd (by simp [blocks, hqr, he.symm]) (h q hq)
        · next hpr hqr => exact absurd (by simp [blocks, hpr, he]) (h p hp)
        · exact t.key_inj hp hq he }

/-- An update of a row that was read and changed outside its key columns succeeds. -/
theorem mem_update {t : Table R} {k : K} {r q p : R} (h : t.get? k = some q)
    (hid : Entity.id r = Entity.id q) (hkey : Entity.key r = k) :
    p ∈ (t.update r).rows ↔ (p ∈ t.rows ∧ p ≠ q) ∨ p = r := by
  have hq := mem_of_get? h
  have hnb : ¬ t.rows.any (blocks r) = true := by
    simp only [List.any_eq_true, not_exists, not_and]
    intro x hx hb
    simp only [blocks, Bool.and_eq_true, decide_eq_true_eq] at hb
    have := t.key_inj hx hq (hb.2.trans (hkey.trans (key_of_get? h).symm))
    exact hb.1 (by rw [this, hid])
  have hiff : ∀ x ∈ t.rows, (Entity.id x = Entity.id r ↔ x = q) := fun x hx =>
    ⟨fun he => t.id_inj hx hq (he.trans hid), fun he => by rw [he, hid]⟩
  unfold update
  rw [dif_neg hnb]
  simp only [List.mem_map]
  constructor
  · rintro ⟨x, hx, rfl⟩
    split
    · exact Or.inr rfl
    · next hne => exact Or.inl ⟨hx, fun he => hne ((hiff x hx).mpr he)⟩
  · rintro (⟨hp, hne⟩ | rfl)
    · exact ⟨p, hp, if_neg fun he => hne ((hiff p hp).mp he)⟩
    · exact ⟨q, hq, if_pos hid.symm⟩

theorem get?_update_self {t : Table R} {k : K} {r q : R} (h : t.get? k = some q)
    (hid : Entity.id r = Entity.id q) (hkey : Entity.key r = k) : (t.update r).get? k = some r := by
  rw [get?_eq_some_iff]
  exact ⟨(mem_update h hid hkey).mpr (Or.inr rfl), hkey⟩

theorem get?_update_of_ne {t : Table R} {k k' : K} {r q : R} (h : t.get? k = some q)
    (hid : Entity.id r = Entity.id q) (hkey : Entity.key r = k) (hne : k' ≠ k) :
    (t.update r).get? k' = t.get? k' := by
  refine get?_congr fun p hp => ?_
  rw [mem_update h hid hkey]
  constructor
  · rintro (h' | rfl)
    · exact h'.1
    · exact absurd (hp.symm.trans hkey) hne
  · intro h'
    refine Or.inl ⟨h', ?_⟩
    rintro rfl
    exact hne (hp.symm.trans (key_of_get? h))

/-- Rows selected by a condition that no row with the updated index value meets are untouched. -/
theorem filter_update {t : Table R} {k : K} {r q : R} {p : R → Bool} (h : t.get? k = some q)
    (hid : Entity.id r = Entity.id q) (hkey : Entity.key r = k)
    (hp : ∀ x, Entity.key x = k → p x = false) :
    (t.update r).rows.filter p = t.rows.filter p := by
  unfold update
  split
  · rfl
  · refine filter_map_eq fun x hx => ?_
    by_cases he : Entity.id x = Entity.id r
    · have hxq : x = q := t.id_inj hx (mem_of_get? h) (he.trans hid)
      rw [if_pos he]
      exact Or.inr ⟨hp x (hxq ▸ key_of_get? h), hp r hkey⟩
    · rw [if_neg he]
      exact Or.inl rfl

end Update

end Table

end EclairMobile.Lib
