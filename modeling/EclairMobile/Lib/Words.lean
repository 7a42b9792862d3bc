import Mathlib.Data.List.Chain
import Mathlib.Data.List.DropRight
import Mathlib.Data.String.Basic

/-!
# Words separated by blanks

`splitOn " "` on characters, and its inverse: words without blanks are what the text that joins them
splits into.  Trimming a text takes the blanks and the control characters off its ends.  A trimmed
text without two blanks side by side splits into words that are not empty.
-/

namespace EclairMobile.Lib

open String

/-- The loop of `splitOn " "` at the character position `l ++ m`, where `m` is the word begun. -/
theorem splitOnAux_space (l m r : List Char) (acc : List String) :
    splitOnAux (ofList (l ++ m ++ r)) " " ⟨utf8Len l⟩ ⟨utf8Len l + utf8Len m⟩ 0 acc =
      acc.reverse ++ (List.splitOnPPrepend (· == ' ') r m.reverse).map ofList := by
  induction r generalizing l m acc with
  | nil =>
    have hend : Pos.Raw.atEnd (ofList (l ++ m ++ [])) ⟨utf8Len l + utf8Len m⟩ = true := by
      simpa using atEnd_of_valid (l ++ m) []
    unfold splitOnAux
    rw [if_pos hend]
    simpa using extract_of_valid l m []
  | cons c r ih =>
    have hend : ¬ Pos.Raw.atEnd (ofList (l ++ m ++ c :: r)) ⟨utf8Len l + utf8Len m⟩ = true := by
      have h := atEnd_of_valid (l ++ m) (c :: r)
      rw [utf8Len_append] at h
      rw [h]
      exact List.cons_ne_nil c r
    have hget : Pos.Raw.get (ofList (l ++ m ++ c :: r)) ⟨utf8Len l + utf8Len m⟩ = c := by
      simpa using get_of_valid (l ++ m) (c :: r)
    have hnext : Pos.Raw.next (ofList (l ++ m ++ c :: r)) ⟨utf8Len l + utf8Len m⟩ =
        ⟨utf8Len l + utf8Len m + c.utf8Size⟩ := by
      simpa using next_of_valid (l ++ m) c r
    have hspace : Pos.Raw.get " " 0 = ' ' := rfl
    have hone : Pos.Raw.next " " 0 = ⟨1⟩ := rfl
    have hlast : Pos.Raw.atEnd " " ⟨1⟩ = true := rfl
    unfold splitOnAux
    rw [if_neg hend]
    simp only [hget, hnext, hspace, hone, hlast, if_true]
    by_cases hc : c = ' '
    · -- the word ends here
      subst hc
      have hsize : (' ' : Char).utf8Size = 1 := rfl
      have hback : (⟨utf8Len l + utf8Len m + 1⟩ : Pos.Raw).unoffsetBy ⟨1⟩ =
          ⟨utf8Len l + utf8Len m⟩ := rfl
      rw [if_pos (by simp), hsize, hback, extract_of_valid l m (' ' :: r)]
      have h := ih (l ++ m ++ [' ']) [] (ofList m :: acc)
      simpa [List.splitOnPPrepend_cons_eq_if, Nat.add_assoc, hsize] using h
    · rw [if_neg (by simpa using hc)]
      have hback : (⟨utf8Len l + utf8Len m⟩ : Pos.Raw).unoffsetBy 0 =
          ⟨utf8Len l + utf8Len m⟩ := rfl
      rw [hback, hnext]
      have h := ih l (m ++ [c]) acc
      simpa [List.splitOnPPrepend_cons_eq_if, hc, Nat.add_assoc] using h

theorem splitOn_space (s : String) : s.splitOn " " = (s.toList.splitOn ' ').map ofList := by
  have h := splitOnAux_space [] [] s.toList []
  simpa [splitOn, List.splitOn_eq_splitOnP] using h

/-- **Words without blanks survive being joined and split.** -/
theorem splitOn_intercalate {words : List String} (hne : words ≠ [])
    (h : ∀ w ∈ words, ' ' ∉ w.toList) : (intercalate " " words).splitOn " " = words := by
  have hsplit : ([' '].intercalate (words.map String.toList)).splitOn ' ' =
      words.map String.toList := by
    refine List.splitOn_intercalate ' ' ?_ (by simpa using hne)
    intro l hl
    obtain ⟨w, hw, rfl⟩ := List.mem_map.mp hl
    exact h w hw
  have hspace : " ".toList = [' '] := rfl
  rw [splitOn_space, toList_intercalate, hspace, hsplit, List.map_map]
  simp

/-! ### Trimming -/

/-- The characters up to the blank, as they are trimmed off. -/
def isTrimmed (c : Char) : Bool := c ≤ ' '

def trim (s : String) : String := ofList ((s.toList.dropWhile isTrimmed).rdropWhile isTrimmed)

theorem dropWhile_rdropWhile_dropWhile {α : Type*} (p : α → Bool) (l : List α) :
    ((l.dropWhile p).rdropWhile p).dropWhile p = (l.dropWhile p).rdropWhile p := by
  rw [List.dropWhile_eq_self_iff]
  intro hlen
  -- the first element is the one at which the first pass stopped
  have hinit := List.rdropWhile_prefix p (l := l.dropWhile p)
  rw [hinit.getElem hlen]
  exact List.dropWhile_get_zero_not p l _

@[simp] theorem trim_trim (s : String) : trim (trim s) = trim s := by
  unfold trim
  rw [toList_ofList, dropWhile_rdropWhile_dropWhile, List.rdropWhile_idempotent]

theorem head?_trim_ne (s : String) : (trim s).toList.head? ≠ some ' ' := by
  unfold trim
  rw [toList_ofList]
  intro h
  obtain ⟨l, hl⟩ := List.head?_eq_some_iff.mp h
  have hdrop := dropWhile_rdropWhile_dropWhile isTrimmed s.toList
  rw [hl, List.dropWhile_cons_of_pos (by decide)] at hdrop
  have hlen := (List.dropWhile_sublist isTrimmed (l := l)).length_le
  rw [hdrop, List.length_cons] at hlen
  omega

theorem getLast?_trim_ne (s : String) : (trim s).toList.getLast? ≠ some ' ' := by
  unfold trim
  rw [toList_ofList]
  intro h
  obtain ⟨l, hl⟩ := List.getLast?_eq_some_iff.mp h
  have hdrop := List.rdropWhile_idempotent isTrimmed (s.toList.dropWhile isTrimmed)
  rw [hl, List.rdropWhile_concat_pos _ _ _ (by decide)] at hdrop
  have hlen := (List.rdropWhile_prefix isTrimmed l).length_le
  rw [hdrop, List.length_append, List.length_singleton] at hlen
  omega

theorem trim_isInfix (s : String) : (trim s).toList <:+: s.toList := by
  unfold trim
  rw [toList_ofList]
  exact (List.rdropWhile_prefix _ _).isInfix.trans (List.dropWhile_suffix _).isInfix

/-! ### Single blanks -/

/-- No two blanks stand side by side. -/
def SingleSpaced (l : List Char) : Prop := l.IsChain fun a b => ¬(a = ' ' ∧ b = ' ')

theorem splitOn_cons_of_ne {c : Char} (hc : c ≠ ' ') (l : List Char) :
    ∃ w, (c :: l).splitOn ' ' = (c :: w) :: (l.splitOn ' ').tail := by
  rw [List.splitOn_cons_eq_if_modifyHead, if_neg (by simpa using hc)]
  cases hl : l.splitOn ' ' with
  | nil => exact absurd hl (List.splitOn_ne_nil _ _)
  | cons w ws => exact ⟨w, rfl⟩

theorem blank_not_mem_of_mem_splitOn (l : List Char) : ∀ w ∈ l.splitOn ' ', ' ' ∉ w := by
  induction l with
  | nil => simp
  | cons c l ih =>
    rw [List.splitOn_cons_eq_if_modifyHead]
    split
    · exact List.forall_mem_cons.mpr ⟨List.not_mem_nil, ih⟩
    · next hc =>
      cases hl : l.splitOn ' ' with
      | nil => exact absurd hl (List.splitOn_ne_nil _ _)
      | cons w ws =>
        rw [hl] at ih
        obtain ⟨hw, hws⟩ := List.forall_mem_cons.mp ih
        refine List.forall_mem_cons.mpr ⟨?_, hws⟩
        intro hmem
        rcases List.mem_cons.mp hmem with heq | hmem
        · exact hc (by simp [← heq])
        · exact hw hmem

theorem SingleSpaced.head?_ne {l : List Char} (h : SingleSpaced (' ' :: l)) :
    l.head? ≠ some ' ' := fun hl => h.rel_head? hl ⟨rfl, rfl⟩

/-- The words behind the first one are not empty, unless the text ends with a blank. -/
theorem SingleSpaced.ne_nil_of_mem_tail {l : List Char} (h : SingleSpaced l)
    (hlast : l.getLast? ≠ some ' ') : ∀ w ∈ (l.splitOn ' ').tail, w ≠ [] := by
  induction l with
  | nil => simp
  | cons c l ih =>
    have htail : ∀ w ∈ (l.splitOn ' ').tail, w ≠ [] := by
      cases l with
      | nil => simp
      | cons d l => exact ih h.tail (by simpa using hlast)
    by_cases hc : c = ' '
    · subst hc
      rw [List.splitOn_cons_eq_if_modifyHead, if_pos (by simp), List.tail_cons]
      -- what follows the blank begins with a word
      cases l with
      | nil => simp at hlast
      | cons d l =>
        obtain ⟨w, hw⟩ := splitOn_cons_of_ne (c := d) (by simpa using h.head?_ne) l
        rw [hw] at htail ⊢
        intro v hv
        rcases List.mem_cons.mp hv with rfl | hv
        · simp
        · exact htail v hv
    · obtain ⟨w, hw⟩ := splitOn_cons_of_ne hc l
      rw [hw]
      exact htail

/-- **A text without blanks at its ends or side by side splits into words that are not empty.** -/
theorem ne_empty_of_mem_splitOn {s : String} (h : SingleSpaced s.toList) (hne : s ≠ "")
    (hhead : s.toList.head? ≠ some ' ') (hlast : s.toList.getLast? ≠ some ' ') :
    ∀ w ∈ s.splitOn " ", w ≠ "" := by
  rw [splitOn_space]
  intro w hw
  obtain ⟨l, hl, rfl⟩ := List.mem_map.mp hw
  suffices l ≠ [] by simpa using this
  cases hs : s.toList with
  | nil => exact absurd (by simpa using hs) hne
  | cons c cs =>
    rw [hs] at hhead hl h hlast
    have htail := h.ne_nil_of_mem_tail hlast
    obtain ⟨v, hv⟩ := splitOn_cons_of_ne (c := c) (by simpa using hhead) cs
    rw [hv] at hl htail
    rcases List.mem_cons.mp hl with rfl | hl
    · simp
    · exact htail l hl

end EclairMobile.Lib
