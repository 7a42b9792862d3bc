import Mathlib.Data.List.Basic
import Mathlib.Data.List.Infix

/-!
# The lower case of a text

A text is lower-cased character by character, each in its context, and the outcome depends on the
language.  Outside Turkish and Azeri, a word of small ASCII letters and signs begins the lower case
of a text if and only if it begins the text in some letter case.  In every language this holds of
the words without an `i`.
-/

namespace EclairMobile.Lib

/-! ### ASCII -/

def IsAscii (c : Char) : Prop := c.toNat < 128

instance : DecidablePred IsAscii := fun _ => inferInstanceAs (Decidable (_ < _))

/-- Neither a capital letter of ASCII nor a small one. -/
def IsSign (c : Char) : Prop := ¬ (65 ≤ c.toNat ∧ c.toNat ≤ 90) ∧ ¬ (97 ≤ c.toNat ∧ c.toNat ≤ 122)

instance : DecidablePred IsSign := fun _ => inferInstanceAs (Decidable (_ ∧ _))

theorem toLower_cases (c : Char) :
    (65 ≤ c.toNat ∧ c.toNat ≤ 90) ∧ c.toLower.toNat = c.toNat + 32 ∨ c.toLower = c := by
  unfold Char.toLower
  split
  · next h =>
    have hlow : 65 ≤ c.toNat := UInt32.le_iff_toNat_le.mp h.1
    have hhigh : c.toNat ≤ 90 := UInt32.le_iff_toNat_le.mp h.2
    have hval : (c.val + ('a'.val - 'A'.val)).toNat = c.toNat + 32 := by
      have h32 : ('a'.val - 'A'.val).toNat = 32 := rfl
      have hc : c.val.toNat = c.toNat := rfl
      rw [UInt32.toNat_add, h32, hc]
      omega
    exact Or.inl ⟨⟨hlow, hhigh⟩, hval⟩
  · exact Or.inr rfl

theorem isAscii_toLower_iff (c : Char) : IsAscii c.toLower ↔ IsAscii c := by
  rcases toLower_cases c with ⟨hc, hl⟩ | heq
  · unfold IsAscii
    omega
  · rw [heq]

/-- Where no letter is sought, letter case plays no role. -/
theorem toLower_eq_iff {c x : Char} (hx : IsSign x) : c.toLower = x ↔ c = x := by
  obtain ⟨hcapital, hsmall⟩ := hx
  rcases toLower_cases c with ⟨hc, hl⟩ | heq
  · refine iff_of_false ?_ ?_
    · rintro rfl
      omega
    · rintro rfl
      exact hcapital hc
  · rw [heq]

/-- The word begins the text, in some case of its ASCII letters. -/
def StartsAnyCase (p s : List Char) : Prop := (s.take p.length).map Char.toLower = p

instance (p s : List Char) : Decidable (StartsAnyCase p s) := inferInstanceAs (Decidable (_ = _))

theorem startsAnyCase_iff {p s : List Char} :
    StartsAnyCase p s ↔ ∃ a t, s = a ++ t ∧ a.map Char.toLower = p := by
  constructor
  · intro h
    exact ⟨s.take p.length, s.drop p.length, (List.take_append_drop _ _).symm, h⟩
  · rintro ⟨a, t, rfl, rfl⟩
    simp [StartsAnyCase]

theorem startsAnyCase_append_iff {p q a t : List Char} (h : a.map Char.toLower = p) :
    StartsAnyCase (p ++ q) (a ++ t) ↔ StartsAnyCase q t := by
  subst h
  simp [StartsAnyCase, List.take_length_add_append]

theorem StartsAnyCase.of_append {p q s : List Char} (h : StartsAnyCase (p ++ q) s) :
    StartsAnyCase p s := by
  obtain ⟨a, t, rfl, ha⟩ := startsAnyCase_iff.mp h
  obtain ⟨b, c, rfl, hb, -⟩ := List.map_eq_append_iff.mp ha
  exact startsAnyCase_iff.mpr ⟨b, c ++ t, by simp, hb⟩

theorem StartsAnyCase.mem {p s : List Char} (h : StartsAnyCase p s) {x : Char} (hx : x ∈ p)
    (hsign : IsSign x) : x ∈ s := by
  obtain ⟨a, t, rfl, rfl⟩ := startsAnyCase_iff.mp h
  obtain ⟨c, hc, heq⟩ := List.mem_map.mp hx
  obtain rfl := (toLower_eq_iff hsign).mp heq
  exact List.mem_append_left t hc

theorem startsAnyCase_cons_iff {x c : Char} {p s : List Char} :
    StartsAnyCase (x :: p) (c :: s) ↔ c.toLower = x ∧ StartsAnyCase p s := by
  simp [StartsAnyCase]

theorem getLast?_ne_of_cons {x c : Char} {a : List Char} (h : (c :: a).getLast? ≠ some x) :
    a.getLast? ≠ some x := by
  intro hlast
  refine h ?_
  rw [List.getLast?_cons, hlast]
  rfl

/-- The words whose letters and signs lower-casing treats one by one, but for the `i` of some
languages. -/
structure Searchable (p : List Char) : Prop where
  ascii : ∀ x ∈ p, IsAscii x
  no_j : 'j' ∉ p
  no_k : 'k' ∉ p
  /-- What follows an `I` matters to it. -/
  last : p.getLast? ≠ some 'i'

theorem Searchable.of_all {p : List Char}
    (h : (p.all fun x => decide (IsAscii x) && x != 'j' && x != 'k') = true)
    (hlast : p.getLast? ≠ some 'i') : Searchable p := by
  simp only [List.all_eq_true, Bool.and_eq_true, decide_eq_true_eq, bne_iff_ne] at h
  exact ⟨fun x hx => (h x hx).1.1, fun hj => (h _ hj).1.2 rfl, fun hk => (h _ hk).2 rfl, hlast⟩

theorem Searchable.tail {x : Char} {p : List Char} (h : Searchable (x :: p)) : Searchable p := by
  refine ⟨fun y hy => h.ascii y (List.mem_cons_of_mem _ hy),
    fun hj => h.no_j (List.mem_cons_of_mem _ hj), fun hk => h.no_k (List.mem_cons_of_mem _ hk), ?_⟩
  exact getLast?_ne_of_cons h.last

/-! ### Languages -/

/-- The casing of a language: what lower-casing makes of a character, given the text before it
(nearest character first) and the text after it. -/
structure Casing where
  lower : List Char → Char → List Char → List Char
  /-- Turkish or Azeri, where `I` is the capital of `ı`, and `İ` that of `i`. -/
  turkic : Bool
  lower_ascii : ∀ before c after, IsAscii c → c ≠ 'I' → c ≠ 'J' →
    lower before c after = [c.toLower]
  /-- No dot above follows the `I`. -/
  lower_capitalI : ∀ before d after, IsAscii d →
    lower before 'I' (d :: after) = [if turkic then 'ı' else 'i']
  /-- Beyond ASCII, `İ` has an `i`, and the Kelvin sign a `k`, in its lower case. -/
  ascii_of_mem : ∀ before c after x, x ∈ lower before c after → IsAscii x →
    x = c.toLower ∨ x = 'i' ∨ x = 'k'
  /-- Nothing is dropped but a dot above behind an `I`. -/
  lower_ne_nil : ∀ before d c after, IsAscii d → d ≠ 'I' → lower (d :: before) c after ≠ []
  /-- Lithuanian keeps the dot of an `i` or `j` below an accent. -/
  lower_of_isAscii : turkic = false → ∀ before c after, IsAscii c →
    ∃ marks, lower before c after = c.toLower :: marks ∧ ∀ x ∈ marks, ¬ IsAscii x
  lower_of_not_isAscii : turkic = false → ∀ before c after, ¬ IsAscii c →
    ∃ x ∈ lower before c after, x = 'k' ∨ ¬ IsAscii x

namespace Casing

/-- The lower case of a text behind another one, which is read backwards. -/
def lowerFrom (l : Casing) : List Char → List Char → List Char
  | _, [] => []
  | before, c :: s => l.lower before c s ++ l.lowerFrom (c :: before) s

def toLowerCase (l : Casing) (s : String) : String := String.ofList (l.lowerFrom [] s.toList)

variable {l : Casing}

/-- A sign or letter of ASCII, `i` and `k` apart, comes from the text itself. -/
theorem mem_of_mem_lowerFrom {x : Char} (hx : IsAscii x) (hi : x ≠ 'i') (hk : x ≠ 'k')
    {before s : List Char} (h : x ∈ l.lowerFrom before s) : ∃ c ∈ s, c.toLower = x := by
  induction s generalizing before with
  | nil => exact absurd h List.not_mem_nil
  | cons c s ih =>
    rcases List.mem_append.mp h with h | h
    · rcases l.ascii_of_mem _ _ _ _ h hx with heq | heq | heq
      · exact ⟨c, List.mem_cons_self, heq.symm⟩
      · exact absurd heq hi
      · exact absurd heq hk
    · obtain ⟨d, hd, heq⟩ := ih h
      exact ⟨d, List.mem_cons_of_mem _ hd, heq⟩

/-- The small letter of an ASCII character inside of a word. -/
def letter (l : Casing) (c : Char) : Char := if c = 'I' ∧ l.turkic then 'ı' else c.toLower

theorem toLower_eq_letter_iff (c : Char) :
    c.toLower = l.letter c ↔ l.turkic = false ∨ c ≠ 'I' := by
  unfold letter
  cases hl : l.turkic with
  | false => simp
  | true =>
    by_cases hI : c = 'I'
    · subst hI
      simp
    · simp [hI]

theorem lowerFrom_append {a : List Char} (hascii : ∀ c ∈ a, IsAscii c) (hJ : 'J' ∉ a)
    (hlast : a.getLast? ≠ some 'I') (before t : List Char) : l.lowerFrom before (a ++ t) =
      a.map l.letter ++ l.lowerFrom (a.reverse ++ before) t := by
  induction a generalizing before with
  | nil => rfl
  | cons c a ih =>
    have hc : l.lower before c (a ++ t) = [l.letter c] := by
      by_cases hI : c = 'I'
      · subst hI
        cases a with
        | nil => exact absurd rfl hlast
        | cons d a =>
          have hd : IsAscii d := hascii d (by simp)
          rw [List.cons_append, l.lower_capitalI _ _ _ hd]
          cases h : l.turkic <;> simp [letter, h]
      · have hcJ : c ≠ 'J' := by
          rintro rfl
          exact hJ List.mem_cons_self
        rw [l.lower_ascii _ _ _ (hascii c List.mem_cons_self) hI hcJ]
        simp [letter, hI]
    rw [List.cons_append, lowerFrom, hc, ih (fun d hd => hascii d (List.mem_cons_of_mem _ hd))
      (fun h => hJ (List.mem_cons_of_mem _ h)) (getLast?_ne_of_cons hlast)]
    simp

theorem lowerFrom_of_startsAnyCase {p a : List Char} (hp : Searchable p)
    (ha : a.map Char.toLower = p) (before t : List Char) : l.lowerFrom before (a ++ t) =
      a.map l.letter ++ l.lowerFrom (a.reverse ++ before) t := by
  subst ha
  refine lowerFrom_append ?_ ?_ ?_ before t
  · intro c hc
    exact (isAscii_toLower_iff c).mp (hp.ascii _ (List.mem_map_of_mem hc))
  · intro hJ
    exact hp.no_j (List.mem_map_of_mem (f := Char.toLower) hJ)
  · intro hI
    refine hp.last ?_
    rw [List.getLast?_map, hI]
    rfl

/-! ### Looking for a word -/

theorem isPrefix_lowerFrom_iff_eq {p a : List Char} (hp : Searchable p)
    (ha : a.map Char.toLower = p) (before t : List Char) :
    p <+: l.lowerFrom before (a ++ t) ↔ p = a.map l.letter := by
  have hlength : p.length = (a.map l.letter).length := by
    rw [← ha, List.length_map, List.length_map]
  have h : p ++ [] <+: a.map l.letter ++ l.lowerFrom (a.reverse ++ before) t ↔
      p = a.map l.letter ∧ [] <+: l.lowerFrom (a.reverse ++ before) t :=
    List.prefix_append_inj_of_length_eq hlength
  rw [List.append_nil] at h
  rw [lowerFrom_of_startsAnyCase hp ha, h]
  exact and_iff_left List.nil_prefix

/-- A word in some letter case is found in lower case, but for a capital `I` in Turkish and
Azeri. -/
theorem isPrefix_lowerFrom_iff_of_startsAnyCase {p s : List Char} (hp : Searchable p)
    (hs : StartsAnyCase p s) (before : List Char) :
    p <+: l.lowerFrom before s ↔ l.turkic = false ∨ 'I' ∉ s.take p.length := by
  obtain ⟨a, t, rfl, ha⟩ := startsAnyCase_iff.mp hs
  have hlength : p.length = a.length := by
    rw [← ha, List.length_map]
  rw [isPrefix_lowerFrom_iff_eq hp ha, hlength, List.take_left' rfl, ← ha, List.map_inj_left]
  simp only [toLower_eq_letter_iff]
  constructor
  · intro h
    by_cases hl : l.turkic = false
    · exact Or.inl hl
    · exact Or.inr fun hI => (h 'I' hI).elim hl (· rfl)
  · rintro (hl | hI) c hc
    · exact Or.inl hl
    · right
      rintro rfl
      exact hI hc

/-- Outside Turkish and Azeri, a word does not begin in the lower case of a character that is not
ASCII: it would end there, or go on behind it. -/
theorem not_isPrefix_of_not_isAscii (hl : l.turkic = false) {x : Char} {p : List Char}
    (hp : Searchable (x :: p)) {c : Char} (hc : ¬ IsAscii c) (before after r : List Char) :
    ¬ x :: p <+: l.lower before c after ++ r := by
  intro h
  rcases List.prefix_or_prefix_of_prefix h (List.prefix_append _ r) with h | h
  · obtain ⟨y, hlast⟩ : ∃ y, (x :: p).getLast? = some y := ⟨_, List.getLast?_cons⟩
    have hy : y ∈ x :: p := List.mem_of_getLast? hlast
    rcases l.ascii_of_mem _ _ _ y (h.subset hy) (hp.ascii y hy) with rfl | rfl | rfl
    · exact hc ((isAscii_toLower_iff c).mp (hp.ascii _ hy))
    · exact hp.last hlast
    · exact hp.no_k hy
  · obtain ⟨y, hy, rfl | hne⟩ := l.lower_of_not_isAscii hl before c after hc
    · exact hp.no_k (h.subset hy)
    · exact hne (hp.ascii y (h.subset hy))

/-- Outside Turkish and Azeri, a word begins the lower case of a text if and only if it begins the
text in some letter case. -/
theorem isPrefix_lowerFrom_iff (hl : l.turkic = false) {p : List Char} (hp : Searchable p)
    (before s : List Char) : p <+: l.lowerFrom before s ↔ StartsAnyCase p s := by
  constructor
  · intro h
    induction p generalizing before s with
    | nil => exact rfl
    | cons x p ih =>
      cases s with
      | nil => exact absurd h (by simp [lowerFrom])
      | cons c s =>
        rw [lowerFrom] at h
        by_cases hc : IsAscii c
        · obtain ⟨marks, hlower, hmarks⟩ := l.lower_of_isAscii hl before c s hc
          rw [hlower, List.cons_append, List.cons_prefix_cons] at h
          obtain ⟨rfl, h⟩ := h
          refine startsAnyCase_cons_iff.mpr ⟨rfl, ?_⟩
          cases marks with
          | nil => exact ih hp.tail _ _ h
          | cons y marks =>
            cases p with
            | nil => exact rfl
            | cons z p =>
              -- the mark is not in the word
              obtain ⟨rfl, -⟩ := List.cons_prefix_cons.mp h
              exact absurd (hp.ascii z (by simp)) (hmarks z List.mem_cons_self)
        · exact absurd h (not_isPrefix_of_not_isAscii hl hp hc _ _ _)
  · intro h
    exact (isPrefix_lowerFrom_iff_of_startsAnyCase hp h before).mpr (Or.inl hl)

/-- In every language, a word without an `i` begins the lower case of a text, behind an ASCII
character other than `I`, if and only if it begins the text in some letter case. -/
theorem isPrefix_lowerFrom_of_no_i {p : List Char} (hp : Searchable p) (hi : 'i' ∉ p) {d : Char}
    (hd : IsAscii d) (hI : d ≠ 'I') (before s : List Char) :
    p <+: l.lowerFrom (d :: before) s ↔ StartsAnyCase p s := by
  induction p generalizing d before s with
  | nil => exact iff_of_true List.nil_prefix rfl
  | cons x p ih =>
    cases s with
    | nil => exact iff_of_false (by simp [lowerFrom]) (by simp [StartsAnyCase])
    | cons c s =>
      have hx : IsAscii x := hp.ascii x List.mem_cons_self
      rw [lowerFrom, startsAnyCase_cons_iff]
      by_cases hcx : c.toLower = x
      · subst hcx
        have hc : IsAscii c := (isAscii_toLower_iff c).mp hx
        have hcI : c ≠ 'I' := by
          rintro rfl
          exact hi List.mem_cons_self
        have hcJ : c ≠ 'J' := by
          rintro rfl
          exact hp.no_j List.mem_cons_self
        rw [l.lower_ascii _ _ _ hc hcI hcJ, List.singleton_append, List.prefix_cons_inj,
          ih hp.tail (fun h => hi (List.mem_cons_of_mem _ h)) hc hcI]
        simp
      · -- the character has a lower case, which begins with another one
        refine iff_of_false ?_ (fun h => hcx h.1)
        intro h
        obtain ⟨y, ys, hlower⟩ := List.exists_cons_of_ne_nil (l.lower_ne_nil before d c s hd hI)
        rw [hlower, List.cons_append, List.cons_prefix_cons] at h
        obtain ⟨rfl, -⟩ := h
        have hmem : x ∈ l.lower (d :: before) c s := by
          rw [hlower]
          exact List.mem_cons_self
        rcases l.ascii_of_mem _ _ _ x hmem hx with heq | rfl | rfl
        · exact hcx heq.symm
        · exact hi List.mem_cons_self
        · exact hp.no_k List.mem_cons_self

/-- Behind a word that was found in the text, a word without an `i` is found where the text has
it. -/
theorem isPrefix_lowerFrom_append_iff {p q : List Char} (hp : Searchable p) (hne : p ≠ [])
    (hq : Searchable q) (hi : 'i' ∉ q) {before s : List Char}
    (hfound : p <+: l.lowerFrom before s) (hs : StartsAnyCase p s) :
    p ++ q <+: l.lowerFrom before s ↔ StartsAnyCase (p ++ q) s := by
  obtain ⟨a, t, rfl, ha⟩ := startsAnyCase_iff.mp hs
  have hword := (isPrefix_lowerFrom_iff_eq hp ha before t).mp hfound
  rw [lowerFrom_of_startsAnyCase hp ha]
  rw [← hword, List.prefix_append_right_inj, startsAnyCase_append_iff ha]
  -- the character before it in the text
  obtain ⟨a, d, rfl⟩ : ∃ a' d, a = a' ++ [d] := by
    rcases List.eq_nil_or_concat' a with rfl | h
    · exact absurd ha.symm hne
    · exact h
  subst ha
  have hd : IsAscii d := (isAscii_toLower_iff d).mp (hp.ascii _ (by simp))
  have hI : d ≠ 'I' := by
    rintro rfl
    exact hp.last (by simp)
  rw [List.reverse_append, List.append_assoc]
  exact isPrefix_lowerFrom_of_no_i hq hi hd hI _ t

end Casing

end EclairMobile.Lib
