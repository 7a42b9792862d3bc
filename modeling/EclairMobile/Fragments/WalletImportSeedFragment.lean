import EclairMobile.Lib.Casing
import EclairMobile.Lib.Reach
import EclairMobile.Lib.Words
import Mathlib.Data.Int.Order.Basic

/-!
# WalletImportSeedFragment

The recovery phrase is typed on a virtual keyboard, with suggestions for the word that is being
typed.  The suggestions for a word stay on the screen when a blank is typed behind it.  Before the
seed is derived, `RestoreSeedActivity` trims the text and splits it at its blanks.
-/

namespace EclairMobile

open Lib

/-- The English words of BIP39. -/
structure EnglishWordlist where
  words : List String
  ne_empty : ∀ w ∈ words, w ≠ ""
  letters : ∀ w ∈ words, ∀ c ∈ w.toList, 'a' ≤ c ∧ c ≤ 'z'

/-! ### The keyboard -/

namespace VirtualKeyboard

def KEY_DELETE : ℤ := -1

/-- The codes of the keys: from `'a'` to `'z'`, `' '` and delete. -/
def keyCodes : List ℤ := (List.range 26).map (fun i => 97 + (i : ℤ)) ++ [32, KEY_DELETE]

/-- `Character.isAlphabetic` of an ASCII code. -/
def isAlphabetic (keyCode : ℤ) : Prop := 65 ≤ keyCode ∧ keyCode ≤ 90 ∨ 97 ≤ keyCode ∧ keyCode ≤ 122

/-- `Character.isWhitespace` of an ASCII code. -/
def isWhitespace (keyCode : ℤ) : Prop :=
  keyCode = 32 ∨ 9 ≤ keyCode ∧ keyCode ≤ 13 ∨ 28 ≤ keyCode ∧ keyCode ≤ 31

instance : DecidablePred isAlphabetic := fun _ => inferInstanceAs (Decidable (_ ∨ _))

instance : DecidablePred isWhitespace := fun _ => inferInstanceAs (Decidable (_ ∨ _))

/-- `(char) keyCode`. -/
def toChar (keyCode : ℤ) : Char := Char.ofNat keyCode.toNat

end VirtualKeyboard

open VirtualKeyboard

/-- The text that is typed, and the suggestions that are displayed. -/
structure WalletImportSeedFragment where
  spanBuilder : List Char := []
  autocomplete : List String := []
  deriving DecidableEq, Repr

namespace WalletImportSeedFragment

variable (wordlist : EnglishWordlist)

/-! ### Suggestions -/

def getBip39MatchingWords (start : List Char) : List String :=
  wordlist.words.filter fun w => start.isPrefixOf w.toList

/-- `lastIndexOf(' ') + 1`. -/
def lastWordStart (text : List Char) : ℕ := (text.rdropWhile (· ≠ ' ')).length

def hideAutocomplete (s : WalletImportSeedFragment) : WalletImportSeedFragment :=
  { s with autocomplete := [] }

def showAutocomplete (s : WalletImportSeedFragment) (words : List String) :
    WalletImportSeedFragment := { s with autocomplete := words }

/-- The style of the word is left out, and with it the parameter `exact`. -/
def refreshStyleLastWord (s : WalletImportSeedFragment) : WalletImportSeedFragment :=
  if 0 < s.spanBuilder.length then
    let lastWord := s.spanBuilder.drop (lastWordStart s.spanBuilder)
    let found := getBip39MatchingWords wordlist lastWord
    if found = [] then s.hideAutocomplete
    else if lastWord.length < 2 then s.hideAutocomplete
    else s.showAutocomplete found
  else s

/-- A suggestion is tapped: it takes the place of the last word. -/
def onClick (s : WalletImportSeedFragment) (w : String) : WalletImportSeedFragment :=
  let s := s.hideAutocomplete
  { s with spanBuilder := s.spanBuilder.take (lastWordStart s.spanBuilder) ++ w.toList ++ [' '] }

/-! ### Keys -/

/-- The text is not empty and does not end with white space. -/
def acceptsSpace (text : List Char) : Prop := ∃ c ∈ text.getLast?, ¬isWhitespace c.toNat

instance (text : List Char) : Decidable (acceptsSpace text) :=
  decidable_of_iff (text.getLast?.any fun c => ¬isWhitespace c.toNat) (by
    simp [acceptsSpace, Option.any_eq_true])

def onKeyPressed (s : WalletImportSeedFragment) (keyCode : ℤ) : WalletImportSeedFragment :=
  if isAlphabetic keyCode then
    refreshStyleLastWord wordlist { s with spanBuilder := s.spanBuilder ++ [toChar keyCode] }
  else if isWhitespace keyCode then
    if acceptsSpace s.spanBuilder then
      let s := refreshStyleLastWord wordlist s
      { s with spanBuilder := s.spanBuilder ++ [' '] }
    else s
  else if keyCode = KEY_DELETE then
    if s.spanBuilder.length = 0 then { s with spanBuilder := [] }
    else refreshStyleLastWord wordlist { s with spanBuilder := s.spanBuilder.dropLast }
  else s

inductive Event
  | key (keyCode : ℤ)
  | tap (w : String)
  deriving DecidableEq, Repr

def step (s : WalletImportSeedFragment) : Event → Option WalletImportSeedFragment
  | .key keyCode => if keyCode ∈ keyCodes then some (s.onKeyPressed wordlist keyCode) else none
  | .tap w => if w ∈ s.autocomplete then some (s.onClick w) else none

/-! ### A single blank behind each word -/

/-- The text does not start with a blank, and no two blanks stand side by side. -/
structure WellSpaced (text : List Char) : Prop where
  head?_ne : text.head? ≠ some ' '
  singleSpaced : SingleSpaced text

section

variable {text l : List Char}

theorem WellSpaced.of_isPrefix (h : WellSpaced text) (hl : l <+: text) : WellSpaced l := by
  refine ⟨?_, h.singleSpaced.prefix hl⟩
  obtain ⟨r, rfl⟩ := hl
  cases l with
  | nil => simp
  | cons c l => exact h.head?_ne

theorem WellSpaced.append (h : WellSpaced text) (hl : ' ' ∉ l) : WellSpaced (text ++ l) := by
  constructor
  · cases text with
    | nil =>
      intro hhead
      exact hl (List.mem_of_head? hhead)
    | cons c text => exact h.head?_ne
  · refine List.IsChain.append h.singleSpaced ?_ ?_
    · refine List.Pairwise.isChain (List.pairwise_of_forall_mem_list ?_)
      rintro a ha b - ⟨rfl, -⟩
      exact hl ha
    · rintro a - b hb ⟨-, rfl⟩
      exact hl (List.mem_of_head? hb)

theorem WellSpaced.append_blank (h : WellSpaced text) {c : Char} (hlast : text.getLast? = some c)
    (hc : c ≠ ' ') : WellSpaced (text ++ [' ']) := by
  constructor
  · cases text with
    | nil => simp at hlast
    | cons d text => exact h.head?_ne
  · refine List.IsChain.append h.singleSpaced (List.isChain_singleton _) ?_
    rintro a ha b - ⟨rfl, -⟩
    exact hc (Option.some.inj (hlast.symm.trans ha))

/-- A suggestion takes the place of the last word, with a blank behind it. -/
theorem WellSpaced.append_word (h : WellSpaced text) (hne : l ≠ []) (hl : ' ' ∉ l) :
    WellSpaced (text ++ l ++ [' ']) := by
  have hlast : (text ++ l).getLast? = some (l.getLast hne) := by
    rw [List.getLast?_append, List.getLast?_eq_some_getLast hne]
    rfl
  refine (h.append hl).append_blank hlast ?_
  intro heq
  exact hl (heq ▸ List.getLast_mem hne)

end

/-! ### What every event keeps -/

/-- The text is well spaced, and only words of the list are suggested. -/
structure Sound (s : WalletImportSeedFragment) : Prop where
  wellSpaced : WellSpaced s.spanBuilder
  suggested : ∀ w ∈ s.autocomplete, w ∈ wordlist.words

section

variable {s s' : WalletImportSeedFragment}

@[simp] theorem spanBuilder_refreshStyleLastWord :
    (refreshStyleLastWord wordlist s).spanBuilder = s.spanBuilder := by
  unfold refreshStyleLastWord
  dsimp only
  split_ifs <;> rfl

theorem suggested_refreshStyleLastWord (h : ∀ w ∈ s.autocomplete, w ∈ wordlist.words) :
    ∀ w ∈ (refreshStyleLastWord wordlist s).autocomplete, w ∈ wordlist.words := by
  unfold refreshStyleLastWord
  dsimp only
  split_ifs
  · simp [hideAutocomplete]
  · simp [hideAutocomplete]
  · exact fun w hw => (List.mem_filter.mp hw).1
  · exact h

variable {wordlist}

theorem Sound.refresh (h : Sound wordlist s) {text : List Char} (htext : WellSpaced text) :
    Sound wordlist (refreshStyleLastWord wordlist { s with spanBuilder := text }) :=
  ⟨by simpa using htext, suggested_refreshStyleLastWord wordlist h.suggested⟩

theorem toChar_ne_blank : ∀ keyCode ∈ keyCodes, isAlphabetic keyCode → toChar keyCode ≠ ' ' := by
  decide

theorem Sound.onKeyPressed (h : Sound wordlist s) {keyCode : ℤ} (hkey : keyCode ∈ keyCodes) :
    Sound wordlist (s.onKeyPressed wordlist keyCode) := by
  unfold WalletImportSeedFragment.onKeyPressed
  split_ifs with halpha hspace haccept hdelete hempty
  · have hc := toChar_ne_blank keyCode hkey halpha
    exact h.refresh (h.wellSpaced.append (by simpa using hc.symm))
  · obtain ⟨c, hc, hnot⟩ := haccept
    refine ⟨?_, suggested_refreshStyleLastWord wordlist h.suggested⟩
    dsimp only
    rw [spanBuilder_refreshStyleLastWord]
    refine h.wellSpaced.append_blank hc ?_
    rintro rfl
    exact hnot (Or.inl rfl)
  · exact h
  · exact ⟨⟨by simp, List.isChain_nil⟩, h.suggested⟩
  · exact h.refresh (h.wellSpaced.of_isPrefix (List.dropLast_prefix _))
  · exact h

theorem Sound.onClick (h : Sound wordlist s) {w : String} (hw : w ∈ s.autocomplete) :
    Sound wordlist (s.onClick w) := by
  have hmem := h.suggested w hw
  refine ⟨(h.wellSpaced.of_isPrefix (List.take_prefix _ _)).append_word ?_ ?_, by
    simp [WalletImportSeedFragment.onClick, hideAutocomplete]⟩
  · simpa using wordlist.ne_empty w hmem
  · intro hblank
    exact absurd (wordlist.letters w hmem ' ' hblank).1 (by decide)

theorem Sound.step (h : Sound wordlist s) {e : Event}
    (hstep : WalletImportSeedFragment.step wordlist s e = some s') : Sound wordlist s' := by
  unfold WalletImportSeedFragment.step at hstep
  cases e with
  | key keyCode =>
    dsimp only at hstep
    split_ifs at hstep with hkey
    obtain rfl := Option.some.inj hstep
    exact h.onKeyPressed hkey
  | tap w =>
    dsimp only at hstep
    split_ifs at hstep with hw
    obtain rfl := Option.some.inj hstep
    exact h.onClick hw

theorem Sound.of_reach (h : Reach (WalletImportSeedFragment.step wordlist) anyStep (· = {}) s) :
    Sound wordlist s := by
  refine Reach.invariant ?_ (fun _ _ _ hs _ => hs.step) s h
  rintro s rfl
  exact ⟨⟨by simp, List.isChain_nil⟩, by simp⟩

end

end WalletImportSeedFragment

/-! ### The words that are typed -/

namespace RestoreSeedActivity

/-- `getText().toString().trim().toLowerCase()`. -/
def mnemonics (text : List Char) : String := (trim (String.ofList text)).toLower

/-- `split(" ")`, without the empty words at the end. -/
def split (s : String) : List String :=
  if s = "" then [""] else (s.splitOn " ").rdropWhile (· = "")

inductive SeedError
  | importwallet_seed_empty
  | importwallet_seed_error (message : String)
  | createwallet_invalid_seed
  deriving DecidableEq, Repr

/-- The phrase with which `importMnemonics` goes on to the passphrase; `validate` is that of
`MnemonicCode`. -/
def importMnemonics (validate : String → Except String Unit) (text : List Char) :
    Except SeedError String :=
  if trim (mnemonics text) = "" then .error .importwallet_seed_empty
  else
    match validate (mnemonics text) with
    | .ok _ => .ok (mnemonics text)
    | .error message => .error (.importwallet_seed_error message)

/-- The words that `encryptSeed` hands to `encodeMnemonics`. -/
def encryptSeed (text : List Char) : Except SeedError (List String) :=
  if mnemonics text = "" then .error .createwallet_invalid_seed else .ok (split (mnemonics text))

theorem toLower_eq_blank_iff (c : Char) : c.toLower = ' ' ↔ c = ' ' := toLower_eq_iff (by decide)

theorem toList_mnemonics (text : List Char) :
    (mnemonics text).toList = (trim (String.ofList text)).toList.map Char.toLower := by
  show (String.map Char.toLower (trim (String.ofList text))).toList = _
  simp

theorem split_ne_empty {text : List Char} (h : SingleSpaced text) (hne : mnemonics text ≠ "") :
    ∀ w ∈ split (mnemonics text), w ≠ "" := by
  unfold split
  rw [if_neg hne]
  intro w hw
  refine ne_empty_of_mem_splitOn ?_ hne ?_ ?_ w ((List.rdropWhile_prefix _ _).subset hw)
  · rw [toList_mnemonics]
    have hspaced : SingleSpaced (trim (String.ofList text)).toList :=
      h.infix (by simpa using trim_isInfix (String.ofList text))
    refine (List.isChain_map _).mpr (hspaced.imp ?_)
    simp only [toLower_eq_blank_iff]
    exact fun _ _ h => h
  · rw [toList_mnemonics, List.head?_map]
    intro hblank
    obtain ⟨c, hc, hlower⟩ := Option.map_eq_some_iff.mp hblank
    exact head?_trim_ne _ (hc.trans (congrArg some ((toLower_eq_blank_iff c).mp hlower)))
  · rw [toList_mnemonics, List.getLast?_map]
    intro hblank
    obtain ⟨c, hc, hlower⟩ := Option.map_eq_some_iff.mp hblank
    exact getLast?_trim_ne _ (hc.trans (congrArg some ((toLower_eq_blank_iff c).mp hlower)))

end RestoreSeedActivity

namespace WalletImportSeedFragment

/-- **The phrase that is typed is split into words that are not empty.**  The text has no blank at
its beginning and no two side by side; `importMnemonics` goes on, and `encryptSeed` derives a seed,
with words only. -/
theorem words_of_reach (wordlist : EnglishWordlist) {s : WalletImportSeedFragment}
    (h : Reach (step wordlist) anyStep (· = {}) s) :
    s.spanBuilder.head? ≠ some ' ' ∧ SingleSpaced s.spanBuilder ∧
      (∀ validate phrase, RestoreSeedActivity.importMnemonics validate s.spanBuilder = .ok phrase →
        ∀ w ∈ RestoreSeedActivity.split phrase, w ≠ "") ∧
      ∀ words, RestoreSeedActivity.encryptSeed s.spanBuilder = .ok words → ∀ w ∈ words, w ≠ "" := by
  obtain ⟨hhead, hsingle⟩ := (Sound.of_reach h).wellSpaced
  refine ⟨hhead, hsingle, ?_, ?_⟩
  · intro validate phrase hok
    have hphrase : trim (RestoreSeedActivity.mnemonics s.spanBuilder) ≠ "" ∧
        phrase = RestoreSeedActivity.mnemonics s.spanBuilder := by
      unfold RestoreSeedActivity.importMnemonics at hok
      split at hok
      · cases hok
      · next hne =>
        split at hok
        · exact ⟨hne, (Except.ok.inj hok).symm⟩
        · cases hok
    rw [hphrase.2]
    refine RestoreSeedActivity.split_ne_empty hsingle ?_
    intro hempty
    rw [hempty] at hphrase
    exact hphrase.1 (by decide)
  · intro words hok
    unfold RestoreSeedActivity.encryptSeed at hok
    split at hok
    · cases hok
    · next hne =>
      rw [← Except.ok.inj hok]
      exact RestoreSeedActivity.split_ne_empty hsingle hne

/-- Two words of the list. -/
def sampleWordlist : EnglishWordlist where
  words := ["abandon", "zoo"]
  ne_empty := by decide
  letters := by simp

/-- `a`, `b`, a blank, and a tap on the suggestion that is still displayed. -/
theorem words_of_reach_tap : ∃ s : WalletImportSeedFragment,
    s.spanBuilder = "ab abandon ".toList ∧ s.spanBuilder.head? ≠ some ' ' ∧
      SingleSpaced s.spanBuilder ∧
      RestoreSeedActivity.importMnemonics (fun _ => .ok ()) s.spanBuilder = .ok "ab abandon" ∧
      (∀ w ∈ RestoreSeedActivity.split "ab abandon", w ≠ "") ∧
      RestoreSeedActivity.encryptSeed s.spanBuilder = .ok ["ab", "abandon"] ∧
        ∀ w ∈ ["ab", "abandon"], w ≠ "" := by
  have hrun : (run (step sampleWordlist) {}
      [.key 97, .key 98, .key 32, .tap "abandon"]).map (·.spanBuilder) =
        some "ab abandon ".toList := by
    decide +kernel
  obtain ⟨s, hs, he⟩ := Option.map_eq_some_iff.mp hrun
  obtain ⟨hhead, hsingle, hphrase, hwords⟩ := words_of_reach sampleWordlist (reach_of_run rfl hs)
  have himport : RestoreSeedActivity.importMnemonics (fun _ => .ok ()) s.spanBuilder =
      .ok "ab abandon" := by
    rw [he]
    decide +kernel
  have hmnemonics : RestoreSeedActivity.mnemonics s.spanBuilder = "ab abandon" := by
    rw [he]
    decide +kernel
  have hencrypt : RestoreSeedActivity.encryptSeed s.spanBuilder = .ok ["ab", "abandon"] := by
    unfold RestoreSeedActivity.encryptSeed RestoreSeedActivity.split
    rw [hmnemonics, splitOn_space]
    decide +kernel
  exact ⟨s, he, hhead, hsingle, himport, hphrase _ _ himport, hencrypt, hwords _ hencrypt⟩

end WalletImportSeedFragment

end EclairMobile
