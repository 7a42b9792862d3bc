import Mathlib.Data.List.Basic
import Mathlib.Order.Lattice

/-!
# Records that are written over

A store holds records under keys, and a write creates a record or replaces one, with a stamp that
never goes back.  Several records may have the same key.  Whoever lists the records of a key by
their stamps finds a copy of the latest write in front, however the writes were interleaved.
-/

namespace EclairMobile.Lib

/-- Records and writes with their keys and stamps, and which record is the copy of which write. -/
structure Versioned (R W K T : Type*) where
  keyOf : R → K
  stampOf : R → T
  key : W → K
  stamp : W → T
  Copies : R → W → Prop
  keyOf_eq : ∀ {r w}, Copies r w → keyOf r = key w
  stampOf_eq : ∀ {r w}, Copies r w → stampOf r = stamp w

namespace Versioned

variable {R W K T : Type*} [LinearOrder T] (V : Versioned R W K T)

/-- Every record is older than `t₀` or the copy of a write, and for every write there is a record of
its key that is at least as recent. -/
structure Covers (t₀ : T) (records : List R) (writes : List W) : Prop where
  copied : ∀ r ∈ records, V.stampOf r < t₀ ∨ ∃ w ∈ writes, V.Copies r w
  covered : ∀ w ∈ writes, t₀ ≤ V.stamp w ∧
    ∃ r ∈ records, V.keyOf r = V.key w ∧ V.stamp w ≤ V.stampOf r

variable {V} {t₀ : T} {records : List R} {writes : List W} {r : R} {w : W}

theorem Covers.of_old (h : ∀ r ∈ records, V.stampOf r < t₀) : V.Covers t₀ records [] :=
  ⟨fun r hr => .inl (h r hr), nofun⟩

theorem Covers.append (h : V.Covers t₀ records writes) (hcopies : V.Copies r w)
    (ht₀ : t₀ ≤ V.stamp w) : V.Covers t₀ (records ++ [r]) (w :: writes) := by
  constructor
  · intro r' hr'
    rcases List.mem_append.mp hr' with hold | hnew
    · refine (h.copied r' hold).imp_right fun ⟨w', hw', hc⟩ => ?_
      exact ⟨w', List.mem_cons_of_mem _ hw', hc⟩
    · rw [List.mem_singleton.mp hnew]
      exact .inr ⟨w, List.mem_cons_self .., hcopies⟩
  · intro w' hw'
    rcases List.mem_cons.mp hw' with rfl | hold
    · refine ⟨ht₀, r, List.mem_append_right _ (List.mem_singleton_self r), ?_, ?_⟩
      · exact V.keyOf_eq hcopies
      · exact (V.stampOf_eq hcopies).ge
    · obtain ⟨hle, r', hr', hkey, hstamp⟩ := h.covered w' hold
      exact ⟨hle, r', List.mem_append_left _ hr', hkey, hstamp⟩

theorem Covers.replace (h : V.Covers t₀ records writes) {f : R → R}
    (hf : ∀ r ∈ records, f r = r ∨
      V.Copies (f r) w ∧ V.keyOf r = V.keyOf (f r) ∧ V.stampOf r ≤ V.stampOf (f r))
    (hsome : ∃ r ∈ records, V.Copies (f r) w) (ht₀ : t₀ ≤ V.stamp w) :
    V.Covers t₀ (records.map f) (w :: writes) := by
  constructor
  · intro r' hr'
    obtain ⟨r, hr, rfl⟩ := List.mem_map.mp hr'
    rcases hf r hr with heq | ⟨hcopies, -, -⟩
    · rw [heq]
      refine (h.copied r hr).imp_right fun ⟨w', hw', hc⟩ => ?_
      exact ⟨w', List.mem_cons_of_mem _ hw', hc⟩
    · exact .inr ⟨w, List.mem_cons_self .., hcopies⟩
  · intro w' hw'
    rcases List.mem_cons.mp hw' with rfl | hold
    · obtain ⟨r, hr, hcopies⟩ := hsome
      refine ⟨ht₀, f r, List.mem_map_of_mem hr, ?_, ?_⟩
      · exact V.keyOf_eq hcopies
      · exact (V.stampOf_eq hcopies).ge
    · obtain ⟨hle, r, hr, hkey, hstamp⟩ := h.covered w' hold
      refine ⟨hle, f r, List.mem_map_of_mem hr, ?_⟩
      rcases hf r hr with heq | ⟨-, hsame, hlater⟩
      · rw [heq]
        exact ⟨hkey, hstamp⟩
      · exact ⟨hsame.symm.trans hkey, hstamp.trans hlater⟩

/-- **The first record of a listing is a copy of the latest write.** -/
theorem Covers.head_listing (h : V.Covers t₀ records writes) {k : K} {listing : List R}
    (hmem : ∀ r, r ∈ listing ↔ r ∈ records ∧ V.keyOf r = k)
    (hsorted : listing.Pairwise fun a b => V.stampOf b ≤ V.stampOf a)
    (hwritten : ∃ w ∈ writes, V.key w = k) :
    ∃ r w, listing.head? = some r ∧ w ∈ writes ∧ V.key w = k ∧ V.Copies r w ∧
      ∀ w' ∈ writes, V.key w' = k → V.stamp w' ≤ V.stamp w := by
  obtain ⟨w₀, hw₀, hk₀⟩ := hwritten
  obtain ⟨ht₀, r₀, hr₀, hkey₀, hstamp₀⟩ := h.covered w₀ hw₀
  have hr₀' : r₀ ∈ listing := (hmem r₀).mpr ⟨hr₀, hkey₀.trans hk₀⟩
  cases listing with
  | nil => exact absurd hr₀' List.not_mem_nil
  | cons r rest =>
    -- nothing of the listing is more recent than its first record
    have hfirst : ∀ r' ∈ r :: rest, V.stampOf r' ≤ V.stampOf r := by
      intro r' hr'
      rcases List.mem_cons.mp hr' with rfl | hrest
      · exact le_rfl
      · exact (List.pairwise_cons.mp hsorted).1 r' hrest
    obtain ⟨hr, hkr⟩ := (hmem r).mp (List.mem_cons_self ..)
    have hrecent : t₀ ≤ V.stampOf r := ht₀.trans (hstamp₀.trans (hfirst r₀ hr₀'))
    rcases h.copied r hr with hold | ⟨w, hw, hcopies⟩
    · exact absurd hrecent (not_le.mpr hold)
    · refine ⟨r, w, rfl, hw, (V.keyOf_eq hcopies).symm.trans hkr, hcopies, ?_⟩
      intro w' hw' hk'
      obtain ⟨-, r', hr', hkey', hstamp'⟩ := h.covered w' hw'
      calc V.stamp w' ≤ V.stampOf r' := hstamp'
        _ ≤ V.stampOf r := hfirst r' ((hmem r').mpr ⟨hr', hkey'.trans hk'⟩)
        _ = V.stamp w := V.stampOf_eq hcopies

end Versioned

end EclairMobile.Lib
