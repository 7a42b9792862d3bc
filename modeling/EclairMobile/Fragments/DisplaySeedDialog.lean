import Mathlib.Algebra.Group.Nat.Even
import Mathlib.Data.List.Perm.Basic

/-!
# DisplaySeedDialog

The dialog that shows the mnemonic words of the wallet in a table of two columns.
-/

namespace EclairMobile

/-- A row of the table: the HTML texts of its two views. -/
structure TableRow where
  t1 : String
  t2 : String
  deriving DecidableEq, Repr

/-- The words that the dialog shows. -/
structure DisplaySeedDialog where
  wordsTable : List TableRow := []
  deriving DecidableEq, Repr

def createwallet_single_word_display (position : ℕ) (word : String) : String :=
  s!"<small>#{position}</small> <b>{word}</b>"

namespace DisplaySeedDialog

/-! ### The dialog -/

def removeAllViews (dialog : DisplaySeedDialog) : DisplaySeedDialog :=
  { dialog with wordsTable := [] }

def addView (dialog : DisplaySeedDialog) (tr : TableRow) : DisplaySeedDialog :=
  { dialog with wordsTable := dialog.wordsTable ++ [tr] }

/-- The `while` loop of `setWords` from `i`. -/
def setWordsFrom (words : List String) (i : ℕ) (dialog : DisplaySeedDialog) : DisplaySeedDialog :=
  if h : i < words.length / 2 then
    setWordsFrom words (i + 1) (dialog.addView
      { t1 := createwallet_single_word_display (i + 1) words[i]
        t2 := createwallet_single_word_display (i + words.length / 2 + 1)
          words[i + words.length / 2] })
  else dialog
termination_by words.length / 2 - i

def setWords (words : List String) (dialog : DisplaySeedDialog) : DisplaySeedDialog :=
  setWordsFrom words 0 dialog.removeAllViews

/-! ### The words shown -/

/-- The texts in the table. -/
def shown (dialog : DisplaySeedDialog) : List String :=
  dialog.wordsTable.flatMap fun tr => [tr.t1, tr.t2]

/-- Every word with its own position. -/
def labels (words : List String) : List String :=
  (words.zipIdx 1).map fun w => createwallet_single_word_display w.2 w.1

theorem length_labels (words : List String) : (labels words).length = words.length := by
  simp [labels]

theorem getElem_labels {words : List String} {i : ℕ} (h : i < (labels words).length) :
    (labels words)[i] =
      createwallet_single_word_display (i + 1) (words.get ⟨i, length_labels words ▸ h⟩) := by
  simp [labels, Nat.add_comm]

/-- The first column, from the row `i` on, holds the first half of the words. -/
theorem map_t1_setWordsFrom (words : List String) (i : ℕ) (dialog : DisplaySeedDialog) :
    (setWordsFrom words i dialog).wordsTable.map TableRow.t1 =
      dialog.wordsTable.map TableRow.t1 ++ ((labels words).take (words.length / 2)).drop i := by
  have hlen := length_labels words
  fun_induction setWordsFrom words i dialog with
  | case1 i dialog h ih =>
    have hi : i < ((labels words).take (words.length / 2)).length := by
      rw [List.length_take]
      omega
    rw [ih, List.drop_eq_getElem_cons hi, List.getElem_take, getElem_labels]
    simp [addView]
  | case2 i dialog h =>
    have hi : ((labels words).take (words.length / 2)).length ≤ i := by
      rw [List.length_take]
      omega
    rw [List.drop_of_length_le hi, List.append_nil]

/-- The second column holds as many of those that follow. -/
theorem map_t2_setWordsFrom (words : List String) (i : ℕ) (dialog : DisplaySeedDialog) :
    (setWordsFrom words i dialog).wordsTable.map TableRow.t2 =
      dialog.wordsTable.map TableRow.t2 ++
        (((labels words).drop (words.length / 2)).take (words.length / 2)).drop i := by
  have hlen := length_labels words
  fun_induction setWordsFrom words i dialog with
  | case1 i dialog h ih =>
    have hi : i < (((labels words).drop (words.length / 2)).take (words.length / 2)).length := by
      rw [List.length_take, List.length_drop]
      omega
    rw [ih, List.drop_eq_getElem_cons hi, List.getElem_take, List.getElem_drop, getElem_labels]
    simp [addView, Nat.add_comm]
  | case2 i dialog h =>
    have hi : (((labels words).drop (words.length / 2)).take (words.length / 2)).length ≤ i := by
      rw [List.length_take, List.length_drop]
      omega
    rw [List.drop_of_length_le hi, List.append_nil]

theorem shown_perm (dialog : DisplaySeedDialog) :
    dialog.shown.Perm (dialog.wordsTable.map TableRow.t1 ++ dialog.wordsTable.map TableRow.t2) := by
  have h := List.flatMap_append_perm dialog.wordsTable (fun tr => [tr.t1]) (fun tr => [tr.t2])
  rw [List.map_eq_flatMap, List.map_eq_flatMap]
  exact h.symm

/-- Twice half as many words are shown, each with its own position. -/
theorem shown_setWords (words : List String) (dialog : DisplaySeedDialog) :
    (dialog.setWords words).shown.Perm
      ((labels words).take (words.length / 2 + words.length / 2)) := by
  have ht1 := map_t1_setWordsFrom words 0 dialog.removeAllViews
  have ht2 := map_t2_setWordsFrom words 0 dialog.removeAllViews
  have h := shown_perm (dialog.setWords words)
  unfold setWords at h ⊢
  rw [ht1, ht2] at h
  rw [List.take_add]
  simpa [removeAllViews] using h

/-- **The dialog shows every word exactly once, with its own position, and nothing else, exactly if
the number of words is even.** -/
theorem setWords_iff (words : List String) (dialog : DisplaySeedDialog) :
    (dialog.setWords words).shown.Perm (labels words) ↔ Even words.length := by
  have hshown := shown_setWords words dialog
  constructor
  · intro h
    have hlength := (hshown.symm.trans h).length_eq
    rw [List.length_take, length_labels] at hlength
    exact ⟨words.length / 2, by omega⟩
  · rintro ⟨k, hk⟩
    rw [List.take_of_length_le (by rw [length_labels]; omega)] at hshown
    exact hshown

/-- The fifteen words of a wallet. -/
def fifteenWords : List String := List.replicate 14 "abandon" ++ ["address"]

/-- A mnemonic of fifteen words, which can be restored, is shown without its last word. -/
theorem not_setWords :
    ¬ ∀ words : List String, words.length % 3 = 0 → ∀ dialog : DisplaySeedDialog,
      (dialog.setWords words).shown.Perm (labels words) := by
  intro h
  have hlength := (h fifteenWords rfl {}).length_eq
  have hshown := (shown_setWords fifteenWords {}).length_eq
  rw [hlength, List.length_take, length_labels] at hshown
  exact absurd hshown (by decide)

end DisplaySeedDialog

end EclairMobile
