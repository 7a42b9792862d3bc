import EclairMobile.Activities.CreateSeedActivity

/-!
# Runs of the screen that creates a wallet

Two invariants.  `Asks`: the question on the screen names the positions that are checked, so an
accepted check is three words at three positions of the phrase.  `Writes`: whatever is under way to
the seed file, or in it, encodes the phrase with a passphrase that both fields held, and was let
through by an accepted check.
-/

namespace EclairMobile

open Lib AesCbcWithIntegrity WalletUtils EclairActivity

namespace CreateSeedActivity

/-! ### The three positions -/

section Positions

variable {positions shuffled : List ℕ}

theorem perm_sortFirst3 (l : List ℕ) : (sortFirst3 l).Perm l := by
  unfold sortFirst3
  conv_rhs => rw [← List.take_append_drop 3 l]
  exact (List.perm_insertionSort _ _).append_right _

theorem take_sortFirst3 (l : List ℕ) :
    (sortFirst3 l).take 3 = (l.take 3).insertionSort (· ≤ ·) := by
  unfold sortFirst3
  by_cases h : 3 ≤ l.length
  · have hlen : ((l.take 3).insertionSort (· ≤ ·)).length = 3 := by
      rw [List.length_insertionSort, List.length_take]
      omega
    exact List.take_left' hlen
  · have hdrop : l.drop 3 = [] := List.drop_eq_nil_iff.mpr (by omega)
    have hlen : ((l.take 3).insertionSort (· ≤ ·)).length ≤ 3 := by
      rw [List.length_insertionSort, List.length_take]
      omega
    rw [hdrop, List.append_nil, List.take_of_length_le hlen]

theorem drop_sortFirst3 (l : List ℕ) : (sortFirst3 l).drop 3 = l.drop 3 := by
  have h : (sortFirst3 l).take 3 ++ (sortFirst3 l).drop 3 =
      (l.take 3).insertionSort (· ≤ ·) ++ l.drop 3 := List.take_append_drop 3 _
  rw [take_sortFirst3] at h
  exact List.append_cancel_left h

theorem sortFirst3_sortFirst3 (l : List ℕ) : sortFirst3 (sortFirst3 l) = sortFirst3 l := by
  show ((sortFirst3 l).take 3).insertionSort (· ≤ ·) ++ (sortFirst3 l).drop 3 = _
  rw [take_sortFirst3, drop_sortFirst3, (List.pairwise_insertionSort _ _).insertionSort_eq]
  rfl

theorem getFirst3Positions_sortFirst3 (l : List ℕ) :
    getFirst3Positions (sortFirst3 l) = getFirst3Positions l := by
  unfold getFirst3Positions
  rw [sortFirst3_sortFirst3]

theorem exists_first3 (h : positions.Perm (List.range 12)) :
    ∃ p q r, getFirst3Positions positions = [p, q, r] ∧ p < q ∧ q < r := by
  have hperm : (sortFirst3 positions).Perm (List.range 12) := (perm_sortFirst3 positions).trans h
  have hlen : (sortFirst3 positions).length = 12 := by simpa using hperm.length_eq
  have hnodup : (sortFirst3 positions).Nodup := hperm.nodup_iff.mpr List.nodup_range
  have hsorted : ((sortFirst3 positions).take 3).Pairwise (· ≤ ·) := by
    rw [take_sortFirst3]
    exact List.pairwise_insertionSort _ _
  have hlt : ((sortFirst3 positions).take 3).Pairwise (· < ·) := by
    have hne := List.Nodup.sublist (List.take_sublist 3 _) hnodup
    exact (hsorted.and hne).imp fun h => lt_of_le_of_ne h.1 h.2
  rcases hl : (sortFirst3 positions).take 3 with _ | ⟨p, _ | ⟨q, _ | ⟨r, l⟩⟩⟩
  · simp_all
  · have := congrArg List.length hl
    simp [hlen] at this
  · have := congrArg List.length hl
    simp [hlen] at this
  · have hlast : l = [] := by
      have := congrArg List.length hl
      rw [List.length_take, hlen] at this
      exact List.eq_nil_of_length_eq_zero (by simpa using this.symm)
    subst hlast
    rw [hl] at hlt
    refine ⟨p, q, r, hl, ?_, ?_⟩
    · exact (List.pairwise_cons.mp hlt).1 q (by simp)
    · exact (List.pairwise_cons.mp (List.pairwise_cons.mp hlt).2).1 r (by simp)

end Positions

/-! ### The words that are asked for -/

/-- Three words at three positions of the phrase, counted from one. -/
structure Recovered (k : CharCases) (mnemonics : List String) (check : List (ℕ × String)) :
    Prop where
  length : check.length = 3
  positions : (check.map Prod.fst).Pairwise (· < ·)
  words : ∀ a ∈ check, 1 ≤ a.1 ∧ ∃ w, mnemonics[a.1 - 1]? = some w ∧ k.equalsIgnoreCase w a.2

/-- The question names the positions that the check looks at. -/
structure Asks (k : CharCases) (words : List String) (s : CreateSeedActivity) : Prop where
  phrase : s.mMnemonics = some words
  positions : s.recoveryPositions.Perm (List.range 12)
  question : ∀ w ∈ s.checkWords, w.checkQuestion ≠ [] →
    w.checkQuestion = (getFirst3Positions s.recoveryPositions).map (· + 1)
  asked : s.currentItem = 1 → ∃ w, s.checkWords = some w ∧ w.checkQuestion ≠ []
  checked : ∀ check ∈ s.checked, Recovered k words check

section Asks

variable {k : CharCases} {words : List String} {s s' : CreateSeedActivity}

/-- The words of an accepted check are those of the phrase. -/
theorem recovered_of_wordsMatch (hm : s.mMnemonics = some words)
    (hpos : s.recoveryPositions.Perm (List.range 12))
    {w : CheckWordsBinding}
    (hq : w.checkQuestion = (getFirst3Positions s.recoveryPositions).map (· + 1))
    (hmatch : wordsMatch k s w = true) :
    Recovered k words (w.checkQuestion.zip (userWords w)) := by
  obtain ⟨p, q, r, hfirst, hpq, hqr⟩ := exists_first3 hpos
  unfold wordsMatch userWords at hmatch
  rw [hfirst] at hmatch
  simp only [checkWordRecoveryPhrase, hm, Option.getD_some, List.zip_cons_cons,
    List.zip_nil_right, List.all_cons, List.all_nil, Bool.and_true, Bool.and_eq_true,
    Option.any_eq_true] at hmatch
  obtain ⟨⟨w₁, hw₁, he₁⟩, ⟨w₂, hw₂, he₂⟩, w₃, hw₃, he₃⟩ := hmatch
  rw [hq, hfirst]
  refine ⟨rfl, ?_, ?_⟩
  · simp only [userWords, List.map_cons, List.map_nil, List.zip_cons_cons, List.zip_nil_right,
      List.pairwise_cons, List.mem_cons, List.not_mem_nil, or_false, forall_eq_or_imp, forall_eq]
    refine ⟨⟨by omega, by omega⟩, by omega, ?_⟩
    exact ⟨fun _ h => h.elim, List.Pairwise.nil⟩
  · intro a ha
    simp only [userWords, List.map_cons, List.map_nil, List.zip_cons_cons, List.zip_nil_right,
      List.mem_cons, List.not_mem_nil, or_false] at ha
    rcases ha with rfl | rfl | rfl
    · exact ⟨Nat.le_add_left 1 p, w₁, hw₁, he₁⟩
    · exact ⟨Nat.le_add_left 1 q, w₂, hw₂, he₂⟩
    · exact ⟨Nat.le_add_left 1 r, w₃, hw₃, he₃⟩

theorem checkWords_setCurrentItem (item : ℕ) :
    (s.setCurrentItem item).checkWords = s.checkWords ∨
      s.checkWords = none ∧ (s.setCurrentItem item).checkWords = some {} := by
  unfold setCurrentItem
  split
  · exact .inl rfl
  · dsimp only
    split
    · cases s.checkWords with
      | none => exact .inr ⟨rfl, rfl⟩
      | some w => exact .inl rfl
    · exact .inl rfl

@[simp] theorem currentItem_setCurrentItem (item : ℕ) :
    (s.setCurrentItem item).currentItem = item := by
  unfold setCurrentItem
  split
  · assumption
  · rfl

theorem setCurrentItem_frame (item : ℕ) (s : CreateSeedActivity) :
    (s.setCurrentItem item).recoveryPositions = s.recoveryPositions ∧
      (s.setCurrentItem item).mMnemonics = s.mMnemonics ∧
      (s.setCurrentItem item).checked = s.checked := by
  unfold setCurrentItem
  split
  · exact ⟨rfl, rfl, rfl⟩
  · exact ⟨rfl, rfl, rfl⟩

theorem Asks.setCurrentItem (h : Asks k words s) {item : ℕ}
    (hitem : item = 1 → ∃ w, s.checkWords = some w ∧ w.checkQuestion ≠ []) :
    Asks k words (s.setCurrentItem item) := by
  obtain ⟨hpos, hmnemonics, hchecked⟩ := setCurrentItem_frame item s
  refine ⟨hmnemonics.trans h.phrase, ?_, ?_, ?_, ?_⟩
  · rw [hpos]
    exact h.positions
  · rw [hpos]
    rcases checkWords_setCurrentItem (s := s) item with heq | ⟨-, heq⟩
    · rw [heq]
      exact h.question
    · rw [heq]
      intro w hw hne
      obtain rfl := Option.some.inj hw
      exact absurd rfl hne
  · rw [currentItem_setCurrentItem]
    intro hone
    obtain ⟨w, hw, hne⟩ := hitem hone
    rcases checkWords_setCurrentItem (s := s) item with heq | ⟨hnone, -⟩
    · exact ⟨w, heq.trans hw, hne⟩
    · rw [hnone] at hw
      cases hw
  · rw [hchecked]
    exact h.checked

theorem Asks.goToInit (h : Asks k words s) : Asks k words s.goToInit :=
  h.setCurrentItem fun h => absurd h (by decide)

theorem Asks.goToPassphraseStep (h : Asks k words s) : Asks k words s.goToPassphraseStep :=
  h.setCurrentItem fun h => absurd h (by decide)

theorem Asks.mapWords (h : Asks k words s) {f : CheckWordsBinding → CheckWordsBinding}
    (hf : ∀ w, (f w).checkQuestion = w.checkQuestion) :
    Asks k words { s with checkWords := s.checkWords.map f } := by
  refine ⟨h.phrase, h.positions, ?_, ?_, h.checked⟩
  · intro w hw hne
    obtain ⟨w, hw', rfl⟩ := Option.map_eq_some_iff.mp hw
    rw [hf] at hne ⊢
    exact h.question w hw' hne
  · intro hone
    obtain ⟨w, hw, hne⟩ := h.asked hone
    refine ⟨f w, ?_, ?_⟩
    · show s.checkWords.map f = _
      rw [hw]
      rfl
    · rw [hf]
      exact hne

theorem Asks.setVerificationError (h : Asks k words s) (visible : Bool) :
    Asks k words (s.setVerificationError visible) := h.mapWords fun _ => rfl

/-- The question that is set up names the first positions. -/
theorem setUpCheckWords_some {shuffled : List ℕ} {w : CheckWordsBinding}
    (hw : s.checkWords = some w) (hshuffled : shuffled.Perm (List.range 12)) :
    ∃ w', (s.setUpCheckWords shuffled).checkWords = some w' ∧ w'.checkQuestion ≠ [] ∧
      w'.checkQuestion = (getFirst3Positions shuffled).map (· + 1) := by
  obtain ⟨p, q, r, hfirst, -⟩ := exists_first3 hshuffled
  refine ⟨_, by unfold setUpCheckWords; rw [hw], ?_, rfl⟩
  rw [hfirst]
  exact List.cons_ne_nil _ _

theorem Asks.setUpCheckWords (h : Asks k words s) {shuffled : List ℕ}
    (hperm : shuffled.Perm s.recoveryPositions) : Asks k words (s.setUpCheckWords shuffled) := by
  have hshuffled := hperm.trans h.positions
  have hpos : (sortFirst3 shuffled).Perm (List.range 12) := (perm_sortFirst3 _).trans hshuffled
  cases hw : s.checkWords with
  | none =>
    unfold CreateSeedActivity.setUpCheckWords
    rw [hw]
    refine Asks.goToInit ⟨h.phrase, hpos, ?_, ?_, h.checked⟩
    · intro w hw'
      cases hw'
    · intro hone
      obtain ⟨w, hw', -⟩ := h.asked hone
      rw [hw] at hw'
      cases hw'
  | some w =>
    obtain ⟨w', hw', hne, hq⟩ := setUpCheckWords_some hw hshuffled
    have hrest : (s.setUpCheckWords shuffled).recoveryPositions = sortFirst3 shuffled ∧
        (s.setUpCheckWords shuffled).checked = s.checked ∧
        (s.setUpCheckWords shuffled).mMnemonics = s.mMnemonics := by
      unfold CreateSeedActivity.setUpCheckWords
      rw [hw]
      exact ⟨rfl, rfl, rfl⟩
    refine ⟨hrest.2.2.trans h.phrase, ?_, ?_, ?_, ?_⟩
    · rw [hrest.1]
      exact hpos
    · rw [hw', hrest.1, getFirst3Positions_sortFirst3]
      rintro w'' hw'' -
      obtain rfl := Option.some.inj hw''
      exact hq
    · exact fun _ => ⟨w', hw', hne⟩
    · rw [hrest.2.1]
      exact h.checked

theorem Asks.goToVerificationStep (h : Asks k words s) {shuffled : List ℕ}
    (hperm : shuffled.Perm s.recoveryPositions) :
    Asks k words (s.goToVerificationStep shuffled) := by
  unfold CreateSeedActivity.goToVerificationStep
  have h0 : Asks k words { s with verifPosted := false } :=
    ⟨h.phrase, h.positions, h.question, h.asked, h.checked⟩
  dsimp only
  split
  · next hsome =>
    have h1 := h0.setVerificationError false
    split
    · exact h1.goToPassphraseStep
    · refine (h1.setUpCheckWords hperm).setCurrentItem fun _ => ?_
      obtain ⟨w, hw⟩ := Option.isSome_iff_exists.mp hsome
      obtain ⟨w', hw', hne, -⟩ := setUpCheckWords_some
        (s := CreateSeedActivity.setVerificationError false { s with verifPosted := false })
        (w := { w with verificationError := false })
        (by show s.checkWords.map _ = _; rw [hw]; rfl) (hperm.trans h.positions)
      exact ⟨w', hw', hne⟩
  · exact h0.goToInit

/-- **An accepted check has three words at three positions of the phrase.** -/
theorem Asks.verifyUserBackup (h : Asks k words s) (hitem : s.currentItem = 1) :
    Asks k words (s.verifyUserBackup k) := by
  have h0 : Asks k words { s with verifPosted := false } :=
    ⟨h.phrase, h.positions, h.question, h.asked, h.checked⟩
  have h1 := h0.setVerificationError false
  unfold CreateSeedActivity.verifyUserBackup
  generalize hs₁ :
    CreateSeedActivity.setVerificationError false { s with verifPosted := false } = s₁ at h1 ⊢
  have hitem₁ : s₁.currentItem = 1 := by
    rw [← hs₁]
    exact hitem
  obtain ⟨w, hw, hne⟩ := h1.asked hitem₁
  have hsorted : Asks k words { s₁ with recoveryPositions := sortFirst3 s₁.recoveryPositions } := by
    refine ⟨h1.phrase, (perm_sortFirst3 _).trans h1.positions, ?_, h1.asked, h1.checked⟩
    intro w' hw' hne'
    dsimp only
    rw [getFirst3Positions_sortFirst3]
    exact h1.question w' hw' hne'
  dsimp only
  split
  · next hnone =>
    rw [hw] at hnone
    cases hnone
  · next w' hw' =>
    obtain rfl := Option.some.inj (hw.symm.trans hw')
    split
    · next hmatch =>
      refine Asks.goToPassphraseStep
        ⟨hsorted.phrase, hsorted.positions, hsorted.question, hsorted.asked, ?_⟩
      intro check hcheck
      rcases List.mem_append.mp hcheck with hold | hnew
      · exact h1.checked check hold
      · rw [List.mem_singleton.mp hnew]
        exact recovered_of_wordsMatch h1.phrase h1.positions (h1.question w hw hne) hmatch
    · have h2 := hsorted.setVerificationError true
      exact ⟨h2.phrase, h2.positions, h2.question, h2.asked, h2.checked⟩

theorem Asks.runVerif (h : Asks k words s) {shuffled : List ℕ}
    (hperm : shuffled.Perm s.recoveryPositions) : Asks k words (s.runVerif shuffled) := by
  have h0 : Asks k words { s with verifPosted := false } :=
    ⟨h.phrase, h.positions, h.question, h.asked, h.checked⟩
  exact (h0.setUpCheckWords hperm).setVerificationError false

theorem Asks.goToEncryptionStep (h : Asks k words s) : Asks k words s.goToEncryptionStep := by
  unfold CreateSeedActivity.goToEncryptionStep
  split
  · split
    · have h4 : Asks k words (s.setCurrentItem 4) :=
        h.setCurrentItem fun h => absurd h (by decide)
      exact ⟨h4.phrase, h4.positions, h4.question, h4.asked, h4.checked⟩
    · have h2 := h.goToPassphraseStep
      exact ⟨h2.phrase, h2.positions, h2.question, h2.asked, h2.checked⟩
  · exact h.goToInit

theorem Asks.goToPassphraseConfirmStep (h : Asks k words s) :
    Asks k words s.goToPassphraseConfirmStep := by
  have h0 : Asks k words { s.setPassphraseError false with
      passphraseConfirmInput := s.passphraseConfirmInput.map fun _ => "" } :=
    ⟨h.phrase, h.positions, h.question, h.asked, h.checked⟩
  unfold CreateSeedActivity.goToPassphraseConfirmStep
  dsimp only
  split
  · exact h0
  · split
    · exact h0.goToEncryptionStep
    · exact h0.setCurrentItem fun h => absurd h (by decide)

theorem Asks.callback (h : Asks k words s) (shown : Shown) : Asks k words (s.callback shown) := by
  cases shown with
  | onEncryptSeedFailure message =>
    exact Asks.goToEncryptionStep ⟨h.phrase, h.positions, h.question, h.asked, h.checked⟩
  | onEncryptSeedSuccess => exact ⟨h.phrase, h.positions, h.question, h.asked, h.checked⟩
  | toast message => exact h

theorem Asks.callbacks (h : Asks k words s) (shown : List Shown) :
    Asks k words (shown.foldl CreateSeedActivity.callback s) := by
  induction shown generalizing s with
  | nil => exact h
  | cons shown rest ih => exact ih (h.callback shown)

theorem Asks.onBackPressed (h : Asks k words s) : Asks k words s.onBackPressed := by
  unfold CreateSeedActivity.onBackPressed
  split
  · exact ⟨h.phrase, h.positions, h.question, h.asked, h.checked⟩
  · exact h.goToInit
  · exact h.goToInit
  · exact h.goToPassphraseStep
  · exact h.goToPassphraseStep
  · exact h

theorem Asks.runThread (h : Asks k words s) (d : SeedDecoders) (e : SeedEncoders) :
    Asks k words (s.runThread d e) := by
  unfold CreateSeedActivity.runThread
  dsimp only
  split
  · exact ⟨h.phrase, h.positions, h.question, h.asked, h.checked⟩
  · split
    · exact ⟨h.phrase, h.positions, h.question, h.asked, h.checked⟩
    · exact ⟨h.phrase, h.positions, h.question, h.asked, h.checked⟩

theorem Asks.runPost (h : Asks k words s) (post : SeedPost) : Asks k words (s.runPost post) := by
  unfold CreateSeedActivity.runPost
  dsimp only
  split
  · split
    · exact ⟨h.phrase, h.positions, h.question, h.asked, h.checked⟩
    · exact ⟨h.phrase, h.positions, h.question, h.asked, h.checked⟩
  · exact ⟨h.phrase, h.positions, h.question, h.asked, h.checked⟩

/-- **The question stays the one that is checked**, whatever happens. -/
theorem Asks.act (h : Asks k words s) (c : Crypto) (d : SeedDecoders) (e : SeedEncoders)
    {testnet : Bool} {event : Event} (hen : Enabled testnet s event) :
    Asks k words (s.act c d e k event) := by
  cases event with
  | resume =>
    show Asks k words s.onResume
    unfold CreateSeedActivity.onResume
    split
    · exact ⟨h.phrase, h.positions, h.question, h.asked, h.checked⟩
    · exact h
  | back => exact h.onBackPressed
  | goToVerificationStep shuffled => exact h.goToVerificationStep hen.2
  | typeWords word1 word2 word3 => exact h.mapWords fun _ => rfl
  | verifyUserBackup => exact h.verifyUserBackup hen.2.1
  | skip => exact h.goToPassphraseStep
  | verif shuffled => exact h.runVerif hen.2
  | goToPassphraseConfirmStep => exact h.goToPassphraseConfirmStep
  | goToEncryptionStep => exact h.goToEncryptionStep
  | thread => exact h.runThread d e
  | post post => exact h.runPost post
  | pin payload newPin =>
    show Asks k words (s.runPin payload newPin)
    unfold CreateSeedActivity.runPin
    split
    · exact h
    · exact ⟨h.phrase, h.positions, h.question, h.asked, h.checked⟩
  | confirmPin payload newPin confirmPin env =>
    have h0 : Asks k words { s with phone := encrypted c env payload newPin confirmPin s.phone } :=
      ⟨h.phrase, h.positions, h.question, h.asked, h.checked⟩
    exact h0.callbacks _
  | typePassphrase | typeConfirm | encryptSeed | startup =>
    exact ⟨h.phrase, h.positions, h.question, h.asked, h.checked⟩

end Asks

/-! ### What goes to the seed file -/

section Writes

variable (c : Crypto) (d : SeedDecoders) (e : SeedEncoders) (testnet : Bool)

/-- The user was let through: three words were right, or the test network does not ask for them. -/
def Passed (s : CreateSeedActivity) : Prop := testnet = true ∨ s.checked ≠ []

/-- The payload encodes the phrase with a passphrase that both fields held. -/
def Encodes (s : CreateSeedActivity) (payload : Bytes) : Prop :=
  ∃ mnemonics passphrase, s.mMnemonics = some mnemonics ∧ passphrase ∈ s.confirmed ∧
    encodeMnemonics d e EncryptedSeed.SEED_FILE_VERSION_2 mnemonics (some passphrase) = .ok payload

/-- The payload may be written. -/
def Cleared (s : CreateSeedActivity) (payload : Bytes) : Prop :=
  Passed testnet s ∧ Encodes d e s payload

/-- Whatever is under way to the seed file, or in it, is cleared. -/
structure Writes (s : CreateSeedActivity) : Prop where
  page : 2 ≤ s.currentItem → Passed testnet s
  verified : s.mMnemonicsVerified = true → Passed testnet s
  last : s.currentItem = 4 → s.mPassphrase ∈ s.confirmed
  threads : 0 < s.threads → Passed testnet s ∧ s.mPassphrase ∈ s.confirmed
  posts : ∀ payload, .encryptWallet payload ∈ s.posts → Cleared d e testnet s payload
  pinDialogs : ∀ payload ∈ s.pinDialogs, Cleared d e testnet s payload
  confirmDialogs : ∀ a ∈ s.confirmDialogs, Cleared d e testnet s a.1
  file : ∀ content, fileAt s.phone.datadir SEED_NAME = some content →
    ∃ pin payload, pin.length = PIN_LENGTH ∧ Cleared d e testnet s payload ∧
      Holds c payload EncryptedSeed.SEED_FILE_VERSION_2 pin s.phone.datadir

variable {c d e testnet} {s s' : CreateSeedActivity}

/-- The histories only grow. -/
structure Grows (s s' : CreateSeedActivity) : Prop where
  mMnemonics : s'.mMnemonics = s.mMnemonics
  checked : s.checked ⊆ s'.checked
  confirmed : s.confirmed ⊆ s'.confirmed

theorem Passed.mono (h : Passed testnet s) (hg : Grows s s') : Passed testnet s' := by
  refine h.imp_right fun hne => ?_
  obtain ⟨check, hcheck⟩ := List.exists_mem_of_ne_nil _ hne
  exact List.ne_nil_of_mem (hg.checked hcheck)

theorem Cleared.mono {payload : Bytes} (h : Cleared d e testnet s payload) (hg : Grows s s') :
    Cleared d e testnet s' payload := by
  obtain ⟨hpassed, mnemonics, passphrase, hm, hp, hencode⟩ := h
  exact ⟨hpassed.mono hg, mnemonics, passphrase, hg.mMnemonics.trans hm, hg.confirmed hp, hencode⟩

/-- The work that is under way. -/
structure SameWork (s s' : CreateSeedActivity) : Prop where
  mPassphrase : s'.mPassphrase = s.mPassphrase
  threads : s'.threads = s.threads
  posts : s'.posts = s.posts
  pinDialogs : s'.pinDialogs = s.pinDialogs
  confirmDialogs : s'.confirmDialogs = s.confirmDialogs
  phone : s'.phone = s.phone

/-- An event that only turns pages keeps the invariant if the user may see the page. -/
theorem Writes.turn (h : Writes c d e testnet s) (hg : Grows s s') (hw : SameWork s s')
    (hpage : 2 ≤ s'.currentItem → Passed testnet s')
    (hverified : s'.mMnemonicsVerified = true → Passed testnet s')
    (hlast : s'.currentItem = 4 → s'.mPassphrase ∈ s'.confirmed) : Writes c d e testnet s' := by
  refine ⟨hpage, hverified, hlast, ?_, ?_, ?_, ?_, ?_⟩
  · rw [hw.threads, hw.mPassphrase]
    exact fun hpos => ⟨(h.threads hpos).1.mono hg, hg.confirmed (h.threads hpos).2⟩
  · rw [hw.posts]
    exact fun payload hmem => (h.posts payload hmem).mono hg
  · rw [hw.pinDialogs]
    exact fun payload hmem => (h.pinDialogs payload hmem).mono hg
  · rw [hw.confirmDialogs]
    exact fun a hmem => (h.confirmDialogs a hmem).mono hg
  · rw [hw.phone]
    intro content hcontent
    obtain ⟨pin, payload, hpin, hcleared, hholds⟩ := h.file content hcontent
    exact ⟨pin, payload, hpin, hcleared.mono hg, hholds⟩

theorem Writes.setCurrentItem (h : Writes c d e testnet s) {item : ℕ}
    (hpage : 2 ≤ item → Passed testnet s) (hlast : item = 4 → s.mPassphrase ∈ s.confirmed) :
    Writes c d e testnet (s.setCurrentItem item) := by
  unfold CreateSeedActivity.setCurrentItem
  split
  · exact h
  · exact ⟨hpage, h.verified, hlast, h.threads, h.posts, h.pinDialogs, h.confirmDialogs, h.file⟩

theorem Writes.goToInit (h : Writes c d e testnet s) : Writes c d e testnet s.goToInit :=
  h.setCurrentItem (fun h => absurd h (by decide)) fun h => absurd h (by decide)

theorem Writes.goToPassphraseStep (h : Writes c d e testnet s) (hp : Passed testnet s) :
    Writes c d e testnet s.goToPassphraseStep :=
  h.setCurrentItem (fun _ => hp) fun h => absurd h (by decide)

theorem Writes.setUpCheckWords (h : Writes c d e testnet s) (shuffled : List ℕ) :
    Writes c d e testnet (s.setUpCheckWords shuffled) := by
  unfold CreateSeedActivity.setUpCheckWords
  dsimp only
  split
  · exact Writes.goToInit ⟨h.page, h.verified, h.last, h.threads, h.posts, h.pinDialogs,
      h.confirmDialogs, h.file⟩
  · exact ⟨h.page, h.verified, h.last, h.threads, h.posts, h.pinDialogs, h.confirmDialogs, h.file⟩

theorem Writes.goToVerificationStep (h : Writes c d e testnet s) (shuffled : List ℕ) :
    Writes c d e testnet (s.goToVerificationStep shuffled) := by
  have h0 : Writes c d e testnet { s with verifPosted := false } :=
    ⟨h.page, h.verified, h.last, h.threads, h.posts, h.pinDialogs, h.confirmDialogs, h.file⟩
  have h1 : Writes c d e testnet
      (CreateSeedActivity.setVerificationError false { s with verifPosted := false }) :=
    ⟨h.page, h.verified, h.last, h.threads, h.posts, h.pinDialogs, h.confirmDialogs, h.file⟩
  unfold CreateSeedActivity.goToVerificationStep
  dsimp only
  split
  · split
    · next hverified => exact h1.goToPassphraseStep (h.verified hverified)
    · exact (h1.setUpCheckWords shuffled).setCurrentItem (fun h => absurd h (by decide))
        fun h => absurd h (by decide)
  · exact h0.goToInit

theorem Writes.verifyUserBackup (h : Writes c d e testnet s) (k : CharCases)
    (hitem : s.currentItem = 1) : Writes c d e testnet (s.verifyUserBackup k) := by
  have hnot : ¬2 ≤ s.currentItem := by omega
  have hne : s.currentItem ≠ 4 := by omega
  unfold CreateSeedActivity.verifyUserBackup
  dsimp only
  split
  · exact h.turn ⟨rfl, List.Subset.refl _, List.Subset.refl _⟩ ⟨rfl, rfl, rfl, rfl, rfl, rfl⟩
      (fun hpage => absurd hpage hnot) (fun hfalse => by cases hfalse)
      fun hlast => absurd hlast hne
  · next w hw =>
    split
    · have hpassed : Passed testnet { s with checked := s.checked ++
          [w.checkQuestion.zip (userWords w)] } := Or.inr (by simp)
      refine Writes.goToPassphraseStep ?_ hpassed
      exact h.turn ⟨rfl, List.subset_append_left _ _, List.Subset.refl _⟩
        ⟨rfl, rfl, rfl, rfl, rfl, rfl⟩ (fun _ => hpassed) (fun _ => hpassed)
        fun hlast => absurd hlast hne
    · exact h.turn ⟨rfl, List.Subset.refl _, List.Subset.refl _⟩ ⟨rfl, rfl, rfl, rfl, rfl, rfl⟩
        (fun hpage => absurd hpage hnot) (fun hfalse => by cases hfalse)
        fun hlast => absurd hlast hne

theorem Writes.runVerif (h : Writes c d e testnet s) (shuffled : List ℕ) :
    Writes c d e testnet (s.runVerif shuffled) := by
  have h0 : Writes c d e testnet { s with verifPosted := false } :=
    ⟨h.page, h.verified, h.last, h.threads, h.posts, h.pinDialogs, h.confirmDialogs, h.file⟩
  have h1 := h0.setUpCheckWords shuffled
  exact ⟨h1.page, h1.verified, h1.last, h1.threads, h1.posts, h1.pinDialogs, h1.confirmDialogs,
    h1.file⟩

/-- The passphrase may as well be taken over before the page changes. -/
theorem setCurrentItem_confirm (item : ℕ) (passphrase : String) (s : CreateSeedActivity) :
    ({ s.setCurrentItem item with
      mPassphrase := passphrase
      confirmed := s.confirmed ++ [passphrase] } : CreateSeedActivity) =
    CreateSeedActivity.setCurrentItem item { s with
      mPassphrase := passphrase
      confirmed := s.confirmed ++ [passphrase] } := by
  unfold CreateSeedActivity.setCurrentItem
  split
  · rfl
  · rfl

theorem Writes.confirm (h : Writes c d e testnet s) (passphrase : String) :
    Writes c d e testnet { s with
      mPassphrase := passphrase
      confirmed := s.confirmed ++ [passphrase] } := by
  have hg : Grows s { s with
      mPassphrase := passphrase
      confirmed := s.confirmed ++ [passphrase] } :=
    ⟨rfl, List.Subset.refl _, List.subset_append_left _ _⟩
  have hmem : passphrase ∈ s.confirmed ++ [passphrase] := by simp
  refine ⟨h.page, h.verified, fun _ => hmem, fun hpos => ⟨(h.threads hpos).1, hmem⟩, ?_, ?_, ?_, ?_⟩
  · exact fun payload hpost => (h.posts payload hpost).mono hg
  · exact fun payload hdialog => (h.pinDialogs payload hdialog).mono hg
  · exact fun a hdialog => (h.confirmDialogs a hdialog).mono hg
  · intro content hcontent
    obtain ⟨pin, payload, hpin, hcleared, hholds⟩ := h.file content hcontent
    exact ⟨pin, payload, hpin, hcleared.mono hg, hholds⟩

theorem Writes.goToEncryptionStep (h : Writes c d e testnet s) (hp : Passed testnet s) :
    Writes c d e testnet s.goToEncryptionStep := by
  unfold CreateSeedActivity.goToEncryptionStep
  split
  · next p passphraseConfirm _ _ =>
    split
    · rw [setCurrentItem_confirm]
      refine (h.confirm p.passphraseInput).setCurrentItem (fun _ => hp) fun _ => ?_
      simp
    · have h2 := h.goToPassphraseStep hp
      exact ⟨h2.page, h2.verified, h2.last, h2.threads, h2.posts, h2.pinDialogs, h2.confirmDialogs,
        h2.file⟩
  · exact h.goToInit

theorem Writes.goToPassphraseConfirmStep (h : Writes c d e testnet s) (hp : Passed testnet s) :
    Writes c d e testnet s.goToPassphraseConfirmStep := by
  have h0 : Writes c d e testnet { s.setPassphraseError false with
      passphraseConfirmInput := s.passphraseConfirmInput.map fun _ => "" } :=
    ⟨h.page, h.verified, h.last, h.threads, h.posts, h.pinDialogs, h.confirmDialogs, h.file⟩
  unfold CreateSeedActivity.goToPassphraseConfirmStep
  dsimp only
  split
  · exact h0
  · split
    · exact h0.goToEncryptionStep hp
    · exact h0.setCurrentItem (fun _ => hp) fun h => absurd h (by decide)

theorem Writes.onBackPressed (h : Writes c d e testnet s) :
    Writes c d e testnet s.onBackPressed := by
  unfold CreateSeedActivity.onBackPressed
  split
  · exact ⟨h.page, h.verified, h.last, h.threads, h.posts, h.pinDialogs, h.confirmDialogs, h.file⟩
  · exact h.goToInit
  · exact h.goToInit
  · next hitem => exact h.goToPassphraseStep (h.page (by omega))
  · next hitem => exact h.goToPassphraseStep (h.page (by omega))
  · exact h

/-- The thread encodes the phrase with the passphrase of this moment. -/
theorem Writes.runThread (h : Writes c d e testnet s) (hpos : 0 < s.threads) :
    Writes c d e testnet (s.runThread d e) := by
  obtain ⟨hp, hmem⟩ := h.threads hpos
  have hthreads : 0 < s.threads - 1 → Passed testnet s ∧ s.mPassphrase ∈ s.confirmed :=
    fun _ => ⟨hp, hmem⟩
  have herror : ∀ payload, .encryptWallet payload ∈ SeedPost.writeError :: s.posts →
      Cleared d e testnet s payload := by
    intro payload hpost
    exact h.posts payload ((List.mem_cons.mp hpost).resolve_left nofun)
  unfold CreateSeedActivity.runThread
  dsimp only
  split
  · exact ⟨h.page, h.verified, h.last, hthreads, herror, h.pinDialogs, h.confirmDialogs, h.file⟩
  · next mnemonics hm =>
    split
    · next seed hseed =>
      refine ⟨h.page, h.verified, h.last, hthreads, ?_, h.pinDialogs, h.confirmDialogs, h.file⟩
      intro payload hpost
      rcases List.mem_cons.mp hpost with heq | hold
      · cases heq
        exact ⟨hp, mnemonics, s.mPassphrase, hm, hmem, hseed⟩
      · exact h.posts payload hold
    · exact ⟨h.page, h.verified, h.last, hthreads, herror, h.pinDialogs, h.confirmDialogs, h.file⟩

theorem Writes.runPost (h : Writes c d e testnet s) {post : SeedPost} (hpost : post ∈ s.posts) :
    Writes c d e testnet (s.runPost post) := by
  have hposts : ∀ payload, .encryptWallet payload ∈ s.posts.erase post →
      Cleared d e testnet s payload := fun payload hmem =>
    h.posts payload (List.mem_of_mem_erase hmem)
  unfold CreateSeedActivity.runPost
  dsimp only
  split
  · next payload =>
    split
    · exact ⟨h.page, h.verified, h.last, h.threads, hposts, h.pinDialogs, h.confirmDialogs, h.file⟩
    · refine ⟨h.page, h.verified, h.last, h.threads, hposts, ?_, h.confirmDialogs, h.file⟩
      intro payload' hmem
      rcases List.mem_cons.mp hmem with rfl | hold
      · exact h.posts payload' hpost
      · exact h.pinDialogs payload' hold
  · exact ⟨h.page, h.verified, h.last, h.threads, hposts, h.pinDialogs, h.confirmDialogs, h.file⟩

theorem Writes.runPin (h : Writes c d e testnet s) {payload : Bytes}
    (hpayload : payload ∈ s.pinDialogs) (newPin : String) :
    Writes c d e testnet (s.runPin payload newPin) := by
  unfold CreateSeedActivity.runPin
  split
  · exact h
  · refine ⟨h.page, h.verified, h.last, h.threads, h.posts, h.pinDialogs, ?_, h.file⟩
    intro a hmem
    rcases List.mem_cons.mp hmem with rfl | hold
    · exact h.pinDialogs payload hpayload
    · exact h.confirmDialogs a hold

theorem Writes.callback (h : Writes c d e testnet s) (hp : Passed testnet s) (shown : Shown) :
    Writes c d e testnet (s.callback shown) := by
  cases shown with
  | onEncryptSeedFailure message =>
    exact Writes.goToEncryptionStep (s := { s with
      encryption := s.encryption.map fun _ => some message
      creationStep := 4 }) ⟨h.page, h.verified, h.last, h.threads, h.posts, h.pinDialogs,
        h.confirmDialogs, h.file⟩ hp
  | onEncryptSeedSuccess =>
    exact ⟨h.page, h.verified, h.last, h.threads, h.posts, h.pinDialogs, h.confirmDialogs, h.file⟩
  | toast message => exact h

theorem checked_callback (s : CreateSeedActivity) (shown : Shown) :
    (s.callback shown).checked = s.checked := by
  cases shown with
  | onEncryptSeedFailure message =>
    show (goToEncryptionStep _).checked = _
    unfold CreateSeedActivity.goToEncryptionStep
    split
    · split
      · exact (setCurrentItem_frame 4 _).2.2
      · exact (setCurrentItem_frame 2 _).2.2
    · exact (setCurrentItem_frame 0 _).2.2
  | onEncryptSeedSuccess => rfl
  | toast message => rfl

theorem Writes.callbacks (h : Writes c d e testnet s) (hp : Passed testnet s)
    (shown : List Shown) :
    Writes c d e testnet (shown.foldl CreateSeedActivity.callback s) := by
  induction shown generalizing s with
  | nil => exact h
  | cons shown rest ih =>
    refine ih (h.callback hp shown) ?_
    unfold Passed
    rw [checked_callback]
    exact hp

/-- **What the second dialog writes is cleared.** -/
theorem Writes.confirmPin (h : Writes c d e testnet s) {payload : Bytes} {newPin : String}
    (hmem : (payload, newPin) ∈ s.confirmDialogs) (env : WriteEnv) (confirmPin : String) :
    Writes c d e testnet (s.confirmPin c env payload newPin confirmPin) := by
  have hcleared := h.confirmDialogs _ hmem
  refine Writes.callbacks (s := { s with
    phone := encrypted c env payload newPin confirmPin s.phone }) ?_ hcleared.1 _
  refine ⟨h.page, h.verified, h.last, h.threads, h.posts, h.pinDialogs, h.confirmDialogs, ?_⟩
  intro content hcontent
  have hcases : Encrypted c payload EncryptedSeed.SEED_FILE_VERSION_2 (some newPin) confirmPin
      { s.phone with shown := [] } (encrypted c env payload newPin confirmPin s.phone) :=
    exec_encryptWallet_cases
  cases hcases with
  | failed hkept _ =>
    have hseed : fileAt (encrypted c env payload newPin confirmPin s.phone).datadir SEED_NAME =
        fileAt s.phone.datadir SEED_NAME := hkept.seedFile
    dsimp only at hcontent ⊢
    rw [hseed] at hcontent
    obtain ⟨pin, payload', hpin, hcleared', hholds⟩ := h.file content hcontent
    exact ⟨pin, payload', hpin, hcleared', hholds.congr hseed⟩
  | written haccepted hrewritten =>
    refine ⟨confirmPin, payload, ?_, hcleared, hrewritten.holds⟩
    have hpin : newPin = confirmPin := Option.some.inj haccepted.2
    rw [← hpin]
    exact Option.some.inj haccepted.1

/-- **Nothing gets to the seed file, or on its way there, that is not cleared.** -/
theorem Writes.act (h : Writes c d e testnet s) (k : CharCases) {event : Event}
    (hen : Enabled testnet s event) : Writes c d e testnet (s.act c d e k event) := by
  cases event with
  | resume =>
    show Writes c d e testnet s.onResume
    unfold CreateSeedActivity.onResume
    split
    · exact ⟨h.page, h.verified, h.last, h.threads, h.posts, h.pinDialogs, h.confirmDialogs,
        h.file⟩
    · exact h
  | back => exact h.onBackPressed
  | goToVerificationStep shuffled => exact h.goToVerificationStep shuffled
  | verifyUserBackup => exact h.verifyUserBackup k hen.2.1
  | skip => exact h.goToPassphraseStep (Or.inl hen.2)
  | verif shuffled => exact h.runVerif shuffled
  | goToPassphraseConfirmStep =>
    have hitem : s.currentItem = 2 := hen.2.1
    exact h.goToPassphraseConfirmStep (h.page hitem.ge)
  | goToEncryptionStep =>
    have hitem : s.currentItem = 3 := hen.2.1
    exact h.goToEncryptionStep (h.page (by omega))
  | encryptSeed =>
    have hitem : s.currentItem = 4 := hen.2.1
    exact ⟨h.page, h.verified, h.last, fun _ => ⟨h.page (by omega), h.last hitem⟩, h.posts,
      h.pinDialogs, h.confirmDialogs, h.file⟩
  | thread => exact h.runThread hen
  | post post => exact h.runPost hen
  | pin payload newPin => exact h.runPin hen newPin
  | confirmPin payload newPin confirmPin env => exact h.confirmPin hen env confirmPin
  | typeWords | typePassphrase | typeConfirm | startup =>
    exact ⟨h.page, h.verified, h.last, h.threads, h.posts, h.pinDialogs, h.confirmDialogs, h.file⟩

end Writes

/-! ### What the seed file holds -/

/-- The screen is opened with a phrase, on a phone without a seed file. -/
def Starts (mnemonics : List String) (s : CreateSeedActivity) : Prop :=
  ∃ phone : Phone, fileAt phone.datadir SEED_NAME = none ∧
    s = { mMnemonics := some mnemonics, phone := phone }

section

variable {c : Crypto} {d : SeedDecoders} {e : SeedEncoders} {k : CharCases} {testnet : Bool}
  {mnemonics : List String} {s : CreateSeedActivity}

theorem invariants_of_reach (h : Reach (step c d e k testnet) anyStep (Starts mnemonics) s) :
    Asks k mnemonics s ∧ Writes c d e testnet s := by
  refine Reach.invariant (I := fun s => Asks k mnemonics s ∧ Writes c d e testnet s) ?_ ?_ s h
  · rintro s ⟨phone, hfile, rfl⟩
    constructor
    · refine ⟨rfl, List.Perm.refl _, ?_, ?_, ?_⟩
      · rintro w hw hne
        obtain rfl := Option.some.inj hw
        exact absurd rfl hne
      · exact fun h => absurd h (by simp)
      · exact fun check hcheck => absurd hcheck List.not_mem_nil
    · refine ⟨?_, ?_, ?_, ?_, ?_, ?_, ?_, ?_⟩
      · exact fun h => absurd h (by simp)
      · exact fun h => absurd h (by simp)
      · exact fun h => absurd h (by simp)
      · exact fun h => absurd h (by simp)
      · exact fun payload hmem => absurd hmem List.not_mem_nil
      · exact fun payload hmem => absurd hmem List.not_mem_nil
      · exact fun a hmem => absurd hmem List.not_mem_nil
      · intro content hcontent
        rw [hfile] at hcontent
        cases hcontent
  · rintro s event s' ⟨hasks, hwrites⟩ - hstep
    obtain ⟨hen, rfl⟩ := (step_eq_some_iff c d e k).mp hstep
    exact ⟨hasks.act c d e hen, hwrites.act k hen⟩

/-- **What the screen writes.**  In every run, a seed file holds the phrase that was shown, with a
passphrase that both fields held, under a complete PIN; and on the main network the user has
entered three words of the phrase, at the three positions of the question. -/
theorem createdSeed_of_reach (hc : c.Lawful) (hinv : Inverse d e) (hne : mnemonics ≠ [])
    (hblank : ∀ w ∈ mnemonics, ' ' ∉ w.toList)
    (h : Reach (step c d e k testnet) anyStep (Starts mnemonics) s)
    (hread : ∀ passphrase ∈ s.confirmed,
      ReadsBack d e (mnemonicsFields mnemonics (some passphrase)))
    (hfile : fileAt s.phone.datadir SEED_NAME ≠ none) :
    (∃ pin passphrase seed blob, pin.length = PIN_LENGTH ∧ passphrase ∈ s.confirmed ∧
      readSeedAndDecrypt c s.phone.datadir pin = .ok (seed, blob) ∧
      decodeV2MnemonicsBlob d blob = .ok (mnemonics, passphrase) ∧
      decodeSeed d seed blob = mnemonicsToSeed d mnemonics passphrase) ∧
    (testnet = false → ∃ check ∈ s.checked, Recovered k mnemonics check) := by
  obtain ⟨hasks, hwrites⟩ := invariants_of_reach h
  obtain ⟨content, hcontent⟩ := Option.ne_none_iff_exists'.mp hfile
  obtain ⟨pin, payload, hpin, ⟨hpassed, ms, passphrase, hms, hmem, hencode⟩, hholds⟩ :=
    hwrites.file content hcontent
  obtain rfl := Option.some.inj (hasks.phrase.symm.trans hms)
  constructor
  · obtain ⟨seed, hopen, hversion⟩ := hholds.opens hc
    have hblob := decodeV2MnemonicsBlob_encode hinv hne hblank (some passphrase)
      (hread passphrase hmem)
    rw [encodeMnemonics_v2] at hencode
    obtain rfl := Except.ok.inj hencode
    refine ⟨pin, passphrase, seed, _, hpin, hmem, hopen, hblob, ?_⟩
    unfold decodeSeed
    rw [hversion, if_neg (by decide), if_pos rfl, hblob]
    rfl
  · intro hmain
    rcases hpassed with htest | hchecked
    · rw [hmain] at htest
      cases htest
    · obtain ⟨check, hcheck⟩ := List.exists_mem_of_ne_nil _ hchecked
      exact ⟨check, hcheck, hasks.checked check hcheck⟩

end

/-! ### A run to the seed file -/

namespace KnownRun

open Known

def zooWords : List String := List.replicate 11 "zoo" ++ ["wrong"]

/-- The decoders at this phrase. -/
def zooDecoders : SeedDecoders :=
  { mnemonicDecoders with mnemonicCodeToSeed := fun _ _ => .ok seed }

def asciiCases : CharCases := ⟨Char.toUpper, Char.toLower⟩

def emptyPhone : Phone :=
  { datadir := none, pin := none, useBiometrics := false, keyForPin := false }

/-- Three words of the phrase, no passphrase, and a PIN. -/
def events : List Event :=
  [.goToVerificationStep (List.range 12), .typeWords "zoo" " ZOO" "zoo", .verifyUserBackup,
    .goToPassphraseConfirmStep, .encryptSeed, .thread, .post (.encryptWallet blob),
    .pin blob Known.pin, .confirmPin blob Known.pin Known.pin { salt := salt, iv := iv }]

theorem run_events : (run (step crypto zooDecoders mnemonicEncoders asciiCases false)
    { mMnemonics := some zooWords, phone := emptyPhone } events).map
      (fun s => (s.confirmed, fileAt s.phone.datadir SEED_NAME, s.creationStep)) =
        some ([""], some seedFile, SEED_SPAWN_COMPLETE) := by
  decide +kernel

theorem readsBack_zooWords : ReadsBack zooDecoders mnemonicEncoders
    (mnemonicsFields zooWords (some "")) := by
  have hwords : zooDecoders.getString (mnemonicEncoders.jsonToString
      (mnemonicsFields zooWords (some ""))) "words" = .ok (String.intercalate " " zooWords) := by
    decide +kernel
  have hpassphrase : zooDecoders.getString (mnemonicEncoders.jsonToString
      (mnemonicsFields zooWords (some ""))) "passphrase" = .ok "" := by decide +kernel
  intro field hfield
  rcases List.mem_cons.mp hfield with rfl | hfield
  · exact hwords
  · rw [List.mem_singleton.mp hfield]
    exact hpassphrase

theorem createdSeed_of_reach_zoo : ∃ s : CreateSeedActivity,
    (∃ pin passphrase seed blob, pin.length = PIN_LENGTH ∧ passphrase ∈ s.confirmed ∧
      readSeedAndDecrypt crypto s.phone.datadir pin = .ok (seed, blob) ∧
      decodeV2MnemonicsBlob zooDecoders blob = .ok (zooWords, passphrase) ∧
      decodeSeed zooDecoders seed blob =
        mnemonicsToSeed zooDecoders zooWords passphrase) ∧
    (false = false → ∃ check ∈ s.checked, Recovered asciiCases zooWords check) := by
  obtain ⟨s, hs, hview⟩ := Option.map_eq_some_iff.mp run_events
  obtain ⟨hconfirmed, hfile, -⟩ := Prod.mk.inj hview |>.imp_right Prod.mk.inj
  have hreach : Reach (step crypto zooDecoders mnemonicEncoders asciiCases false) anyStep
      (Starts zooWords) s := reach_of_run ⟨emptyPhone, rfl, rfl⟩ hs
  refine ⟨s, createdSeed_of_reach (e := mnemonicEncoders) (Crypto.ofKnown_lawful answers)
    ⟨hexDecode_hexEncode, utf8_toByteArray⟩ (by decide) (by decide +kernel) hreach ?_ ?_⟩
  · rw [hconfirmed]
    intro passphrase hmem
    rw [List.mem_singleton.mp hmem]
    exact readsBack_zooWords
  · rw [hfile]
    exact Option.some_ne_none _

end KnownRun

end CreateSeedActivity

end EclairMobile
