import EclairMobile.Activities.CreateSeedRuns
import EclairMobile.Activities.RestoreSeedScreen

/-!
# Runs of the screen that restores a wallet

As long as nothing is typed while an encryption is under way, what is on its way to the seed file
was validated as a phrase and checked with its passphrase, although the threads read the fields
late and the dialogs may send the user back to the last page.
-/

namespace EclairMobile

open Lib AesCbcWithIntegrity WalletUtils EclairActivity

/-! ### The words of a phrase -/

namespace RestoreSeedActivity

theorem blank_not_mem_of_mem_split (phrase : String) : ∀ w ∈ split phrase, ' ' ∉ w.toList := by
  unfold split
  split
  · simp
  · intro w hw
    have hmem := (List.rdropWhile_prefix _ _).subset hw
    rw [splitOn_space] at hmem
    obtain ⟨l, hl, rfl⟩ := List.mem_map.mp hmem
    rw [String.toList_ofList]
    exact blank_not_mem_of_mem_splitOn _ l hl

/-- The text is trimmed, so its first word is not empty. -/
theorem split_ne_nil {text : List Char} (hne : mnemonics text ≠ "") :
    split (mnemonics text) ≠ [] := by
  unfold split
  rw [if_neg hne]
  intro hnil
  have hempty := List.rdropWhile_eq_nil_iff.mp hnil
  rw [splitOn_space] at hempty
  cases hs : (mnemonics text).toList with
  | nil => exact hne (by simpa using hs)
  | cons c cs =>
    have hc : c ≠ ' ' := by
      rintro rfl
      rw [toList_mnemonics] at hs
      have hhead := congrArg List.head? hs
      rw [List.head?_map] at hhead
      obtain ⟨b, hb, hlower⟩ := Option.map_eq_some_iff.mp hhead
      exact head?_trim_ne _ (hb.trans (congrArg some ((toLower_eq_blank_iff b).mp hlower)))
    rw [hs] at hempty
    obtain ⟨w, hw⟩ := splitOn_cons_of_ne hc cs
    rw [hw] at hempty
    have hfirst := hempty (String.ofList (c :: w)) (List.mem_map_of_mem (List.mem_cons_self ..))
    exact absurd (of_decide_eq_true hfirst) (by simp)

end RestoreSeedActivity

open RestoreSeedActivity (mnemonics split)

namespace RestoreSeedScreen

/-! ### What is under way -/

/-- An encryption is under way. -/
def Busy (s : RestoreSeedScreen) : Prop :=
  0 < s.threads ∨ s.posts ≠ [] ∨ s.pinDialogs ≠ [] ∨ s.confirmDialogs ≠ []

instance (s : RestoreSeedScreen) : Decidable (Busy s) := inferInstanceAs (Decidable (_ ∨ _))

/-- Nothing is typed while an encryption is under way. -/
def Untouched (s : RestoreSeedScreen) : Event → Prop
  | .type _ | .typePassphrase _ => ¬Busy s
  | _ => True

instance (s : RestoreSeedScreen) : DecidablePred (Untouched s)
  | .type _ | .typePassphrase _ => inferInstanceAs (Decidable ¬Busy s)
  | .importMnemonics | .hideSeedError | .goToPassphraseConfirmStep | .encryptSeed | .back | .thread
  | .post _ | .pin _ _ | .pinGone _ | .confirmPin _ _ _ _ | .confirmGone _ _ | .startup =>
    inferInstanceAs (Decidable True)

section

variable (validate : String → Except String Unit) (d : SeedDecoders) (e : SeedEncoders)

/-- The phrase is validated. -/
structure Validated (text : List Char) : Prop where
  ne_empty : mnemonics text ≠ ""
  validate : validate (mnemonics text) = .ok ()

/-- The phrase and the passphrase have a seed. -/
def Checked (text : List Char) (passphrase : String) : Prop :=
  ∃ seed, mnemonicsToSeed d (split (mnemonics text)) passphrase = .ok seed

/-- The payload encodes a validated phrase with a passphrase that was checked with it. -/
def Payload (encoded : List (List String × String)) (payload : Bytes) : Prop :=
  ∃ text passphrase, Validated validate text ∧ Checked d text passphrase ∧
    (∀ w ∈ split (mnemonics text), w ≠ "") ∧
    (split (mnemonics text), passphrase) ∈ encoded ∧
    encodeMnemonics d e EncryptedSeed.SEED_FILE_VERSION_2 (split (mnemonics text))
      (some passphrase) = .ok payload

end

/-- **Only validated phrases are encrypted.** -/
structure Writes (wordlist : EnglishWordlist) (validate : String → Except String Unit) (c : Crypto)
    (d : SeedDecoders) (e : SeedEncoders) (s : RestoreSeedScreen) : Prop where
  typed : WalletImportSeedFragment.Sound wordlist s.mWalletImportSeedFragment
  validated : 1 ≤ s.currentItem ∨ Busy s → Validated validate s.mnemonicsInput
  checked : 2 ≤ s.currentItem ∨ Busy s → Checked d s.mnemonicsInput s.passphraseInput
  posts : ∀ payload, .encryptWallet payload ∈ s.posts → Payload validate d e s.encoded payload
  pinDialogs : ∀ payload ∈ s.pinDialogs, Payload validate d e s.encoded payload
  confirmDialogs : ∀ a ∈ s.confirmDialogs, Payload validate d e s.encoded a.1
  file : ∀ content, fileAt s.phone.datadir SEED_NAME = some content →
    ∃ pin payload, pin.length = PIN_LENGTH ∧ Payload validate d e s.encoded payload ∧
      Holds c payload EncryptedSeed.SEED_FILE_VERSION_2 pin s.phone.datadir
  origin : s.walletOrigin.getD WALLET_ORIGIN_RESTORED_FROM_SEED =
    WALLET_ORIGIN_RESTORED_FROM_SEED

section

variable {wordlist : EnglishWordlist} {validate : String → Except String Unit} {c : Crypto}
  {d : SeedDecoders} {e : SeedEncoders} {s s' : RestoreSeedScreen}

/-- What the invariant looks at beside the page. -/
def view (s : RestoreSeedScreen) :=
  (s.mWalletImportSeedFragment, s.passphraseInput, s.threads, s.posts, s.pinDialogs,
    s.confirmDialogs, s.phone, s.walletOrigin, s.encoded)

/-- The page changes, and what the new one needs is known. -/
theorem Writes.goTo (h : Writes wordlist validate c d e s) (hview : s'.view = s.view)
    (hvalidated : 1 ≤ s'.currentItem → Validated validate s.mnemonicsInput)
    (hchecked : 2 ≤ s'.currentItem → Checked d s.mnemonicsInput s.passphraseInput) :
    Writes wordlist validate c d e s' := by
  simp only [view, Prod.mk.injEq] at hview
  obtain ⟨htext, hpass, hthreads, hposts, hpins, hconfirms, hphone, horigin, hencoded⟩ := hview
  have hinput : s'.mnemonicsInput = s.mnemonicsInput :=
    congrArg WalletImportSeedFragment.spanBuilder htext
  have hbusy : Busy s' ↔ Busy s := by
    unfold Busy
    rw [hthreads, hposts, hpins, hconfirms]
  refine ⟨?_, ?_, ?_, ?_, ?_, ?_, ?_, ?_⟩
  · rw [htext]
    exact h.typed
  · rw [hinput, hbusy]
    exact fun hor => hor.elim hvalidated fun hb => h.validated (.inr hb)
  · rw [hinput, hpass, hbusy]
    exact fun hor => hor.elim hchecked fun hb => h.checked (.inr hb)
  · rw [hposts, hencoded]
    exact h.posts
  · rw [hpins, hencoded]
    exact h.pinDialogs
  · rw [hconfirms, hencoded]
    exact h.confirmDialogs
  · rw [hphone, hencoded]
    exact h.file
  · rw [horigin]
    exact h.origin

@[simp] theorem view_setCurrentItem (item : ℕ) : (s.setCurrentItem item).view = s.view := by
  unfold setCurrentItem
  split
  · rfl
  · rfl

@[simp] theorem currentItem_setCurrentItem (item : ℕ) :
    (s.setCurrentItem item).currentItem = item := by
  unfold setCurrentItem
  split
  · assumption
  · rfl

theorem Writes.goToInit (h : Writes wordlist validate c d e s) :
    Writes wordlist validate c d e s.goToInit := by
  refine h.goTo (view_setCurrentItem 0) ?_ ?_
  · intro hpage
    unfold RestoreSeedScreen.goToInit at hpage
    rw [currentItem_setCurrentItem] at hpage
    omega
  · intro hpage
    unfold RestoreSeedScreen.goToInit at hpage
    rw [currentItem_setCurrentItem] at hpage
    omega

theorem Writes.same (h : Writes wordlist validate c d e s) (hview : s'.view = s.view)
    (hitem : s'.currentItem = s.currentItem) : Writes wordlist validate c d e s' := by
  refine h.goTo hview ?_ ?_
  · rw [hitem]
    exact fun hpage => h.validated (.inl hpage)
  · rw [hitem]
    exact fun hpage => h.checked (.inl hpage)

/-! ### The pages -/

theorem validated_of_importMnemonics {text : List Char} {phrase : String}
    (h : RestoreSeedActivity.importMnemonics validate text = .ok phrase) :
    Validated validate text := by
  unfold RestoreSeedActivity.importMnemonics at h
  split at h
  · cases h
  · next hblank =>
    split at h
    · next hok =>
      refine ⟨?_, hok⟩
      intro hempty
      rw [hempty] at hblank
      exact hblank (by decide)
    · cases h

theorem Writes.importMnemonics (h : Writes wordlist validate c d e s) :
    Writes wordlist validate c d e (s.importMnemonics validate) := by
  unfold RestoreSeedScreen.importMnemonics
  dsimp only
  split
  · next hok =>
    refine h.goTo (view_setCurrentItem 1) ?_ ?_
    · exact fun _ => validated_of_importMnemonics hok
    · intro hpage
      unfold goToPassphrase at hpage
      rw [currentItem_setCurrentItem] at hpage
      omega
  · exact h.same rfl rfl

theorem Writes.goToPassphraseConfirmStep (h : Writes wordlist validate c d e s)
    (hshows : s.Shows 1) :
    Writes wordlist validate c d e (s.goToPassphraseConfirmStep d) := by
  unfold RestoreSeedScreen.goToPassphraseConfirmStep
  split
  · next seed hok =>
    refine h.goTo (view_setCurrentItem 2) ?_ fun _ => ⟨seed, hok⟩
    exact fun _ => h.validated (.inl hshows.2.1.ge)
  · exact h.goToInit.same rfl rfl

/-! ### The encryption -/

theorem Payload.mono {encoded encoded' : List (List String × String)} {payload : Bytes}
    (h : Payload validate d e encoded payload) (hsub : ∀ a ∈ encoded, a ∈ encoded') :
    Payload validate d e encoded' payload := by
  obtain ⟨text, passphrase, hvalidated, hchecked, hwords, hmem, hencode⟩ := h
  exact ⟨text, passphrase, hvalidated, hchecked, hwords, hsub _ hmem, hencode⟩

theorem Writes.encryptSeed (h : Writes wordlist validate c d e s) (hshows : s.Shows 2) :
    Writes wordlist validate c d e s.encryptSeed := by
  have hpage : s.currentItem = 2 := hshows.2.1
  refine ⟨h.typed, ?_, ?_, h.posts, h.pinDialogs, h.confirmDialogs, h.file, h.origin⟩
  · exact fun _ => h.validated (.inl (by omega))
  · exact fun _ => h.checked (.inl hpage.ge)

/-- The thread reads what was validated, because nothing was typed since. -/
theorem Writes.runThread (h : Writes wordlist validate c d e s) (hthread : 0 < s.threads) :
    Writes wordlist validate c d e (s.runThread d e) := by
  have hvalidated := h.validated (.inr (.inl hthread))
  have hchecked := h.checked (.inr (.inl hthread))
  -- whatever is posted, an encryption was under way before
  have hposted : ∀ (post : SeedPost) (encoded : List (List String × String)),
      (∀ a ∈ s.encoded, a ∈ encoded) →
      (∀ payload, .encryptWallet payload = post → Payload validate d e encoded payload) →
      Writes wordlist validate c d e
        { s with threads := s.threads - 1, posts := post :: s.posts, encoded := encoded } := by
    intro post encoded hsub hpost
    refine ⟨h.typed, fun _ => hvalidated, fun _ => hchecked, ?_, ?_, ?_, ?_, h.origin⟩
    · intro payload hmem
      rcases List.mem_cons.mp hmem with heq | hold
      · exact hpost payload heq
      · exact (h.posts payload hold).mono hsub
    · exact fun payload hmem => (h.pinDialogs payload hmem).mono hsub
    · exact fun a hmem => (h.confirmDialogs a hmem).mono hsub
    · intro content hcontent
      obtain ⟨pin, payload, hpin, hpayload, hholds⟩ := h.file content hcontent
      exact ⟨pin, payload, hpin, hpayload.mono hsub, hholds⟩
  unfold RestoreSeedScreen.runThread
  dsimp only
  split
  · exact hposted .writeError s.encoded (fun _ ha => ha) nofun
  · next words hwords =>
    have heq : words = split (mnemonics s.mnemonicsInput) := by
      have hread : RestoreSeedActivity.encryptSeed s.mnemonicsInput = .ok words := hwords
      unfold RestoreSeedActivity.encryptSeed at hread
      rw [if_neg hvalidated.ne_empty] at hread
      exact (Except.ok.inj hread).symm
    subst heq
    split
    · next seed hseed =>
      refine hposted (.encryptWallet seed) _ (fun _ ha => List.mem_cons_of_mem _ ha) ?_
      intro payload hpayload
      obtain rfl := SeedPost.encryptWallet.inj hpayload
      refine ⟨s.mnemonicsInput, s.passphraseInput, hvalidated, hchecked, ?_,
        List.mem_cons_self .., hseed⟩
      exact RestoreSeedActivity.split_ne_empty h.typed.wellSpaced.singleSpaced hvalidated.ne_empty
    · exact hposted .writeError s.encoded (fun _ ha => ha) nofun

theorem Writes.runPost (h : Writes wordlist validate c d e s) {post : SeedPost}
    (hmem : post ∈ s.posts) : Writes wordlist validate c d e (s.runPost post) := by
  have hbusy : Busy s := .inr (.inl (List.ne_nil_of_mem hmem))
  have hvalidated := h.validated (.inr hbusy)
  have hchecked := h.checked (.inr hbusy)
  have hposts : ∀ payload, .encryptWallet payload ∈ s.posts.erase post →
      Payload validate d e s.encoded payload := fun payload hp =>
    h.posts payload (List.mem_of_mem_erase hp)
  unfold RestoreSeedScreen.runPost
  dsimp only
  split
  · next payload =>
    split
    · exact ⟨h.typed, fun _ => hvalidated, fun _ => hchecked, hposts, h.pinDialogs,
        h.confirmDialogs, h.file, h.origin⟩
    · refine ⟨h.typed, fun _ => hvalidated, fun _ => hchecked, hposts, ?_, h.confirmDialogs, h.file,
        h.origin⟩
      intro p hp
      rcases List.mem_cons.mp hp with rfl | hold
      · exact h.posts p hmem
      · exact h.pinDialogs p hold
  · exact ⟨h.typed, fun _ => hvalidated, fun _ => hchecked, hposts, h.pinDialogs, h.confirmDialogs,
      h.file, h.origin⟩

theorem Writes.runPin (h : Writes wordlist validate c d e s) {payload : Bytes}
    (hmem : payload ∈ s.pinDialogs) (newPin : String) :
    Writes wordlist validate c d e (s.runPin payload newPin) := by
  have hbusy : Busy s := .inr (.inr (.inl (List.ne_nil_of_mem hmem)))
  unfold RestoreSeedScreen.runPin
  split
  · exact h
  · refine ⟨h.typed, fun _ => h.validated (.inr hbusy), fun _ => h.checked (.inr hbusy), h.posts,
      h.pinDialogs, ?_, h.file, h.origin⟩
    intro a ha
    rcases List.mem_cons.mp ha with rfl | hold
    · exact h.pinDialogs payload hmem
    · exact h.confirmDialogs a hold

/-- The callbacks may go to the last page, since the phrase is still the one that was checked. -/
theorem Writes.callback (h : Writes wordlist validate c d e s) (hbusy : Busy s) (shown : Shown) :
    Writes wordlist validate c d e (s.callback shown) ∧ Busy (s.callback shown) := by
  have hvalidated := h.validated (.inr hbusy)
  have hchecked := h.checked (.inr hbusy)
  cases shown with
  | onEncryptSeedFailure message =>
    have hview : (s.callback (.onEncryptSeedFailure message)).view = s.view := by
      show (if s.encryption.isSome then _ else _ : RestoreSeedScreen).view = _
      split
      · exact (view_setCurrentItem (s := { s with importStep := 2 }) 2)
      · rfl
    refine ⟨h.goTo hview (fun _ => hvalidated) fun _ => hchecked, ?_⟩
    simp only [view, Prod.mk.injEq] at hview
    obtain ⟨-, -, hthreads, hposts, hpins, hconfirms, -⟩ := hview
    unfold Busy
    rw [hthreads, hposts, hpins, hconfirms]
    exact hbusy
  | onEncryptSeedSuccess =>
    refine ⟨⟨h.typed, fun _ => hvalidated, fun _ => hchecked, h.posts, h.pinDialogs,
      h.confirmDialogs, h.file, rfl⟩, hbusy⟩
  | toast message => exact ⟨h, hbusy⟩

theorem Writes.callbacks (h : Writes wordlist validate c d e s) (hbusy : Busy s)
    (shown : List Shown) :
    Writes wordlist validate c d e (shown.foldl RestoreSeedScreen.callback s) := by
  induction shown generalizing s with
  | nil => exact h
  | cons shown rest ih =>
    obtain ⟨hnext, hbusy'⟩ := h.callback hbusy shown
    exact ih hnext hbusy'

/-- What is written was validated. -/
theorem Writes.confirmPin (h : Writes wordlist validate c d e s) {payload : Bytes} {newPin : String}
    (hmem : (payload, newPin) ∈ s.confirmDialogs) (env : CreateSeedActivity.WriteEnv)
    (confirmPin : String) :
    Writes wordlist validate c d e (s.confirmPin c env payload newPin confirmPin) := by
  have hbusy : Busy s := .inr (.inr (.inr (List.ne_nil_of_mem hmem)))
  have h0 : Writes wordlist validate c d e
      { s with phone := CreateSeedActivity.encrypted c env payload newPin confirmPin s.phone } := by
    refine ⟨h.typed, h.validated, h.checked, h.posts, h.pinDialogs, h.confirmDialogs, ?_, h.origin⟩
    have hcases : Encrypted c payload EncryptedSeed.SEED_FILE_VERSION_2 (some newPin) confirmPin
        { s.phone with shown := [] }
        (CreateSeedActivity.encrypted c env payload newPin confirmPin s.phone) :=
      exec_encryptWallet_cases
    intro content hcontent
    cases hcases with
    | failed hkept _ =>
      obtain ⟨pin, p, hpin, hpayload, hholds⟩ := h.file content (hkept.seedFile ▸ hcontent)
      exact ⟨pin, p, hpin, hpayload, hholds.congr hkept.seedFile⟩
    | written haccepted hrewritten =>
      refine ⟨confirmPin, payload, ?_, h.confirmDialogs _ hmem, hrewritten.holds⟩
      have hpin : newPin = confirmPin := Option.some.inj haccepted.2
      rw [← hpin]
      exact Option.some.inj haccepted.1
  exact h0.callbacks hbusy _

/-! ### Every event -/

theorem Writes.fewer (h : Writes wordlist validate c d e s) {pinDialogs : List Bytes}
    {confirmDialogs : List (Bytes × String)} (hbusy : Busy s)
    (hpins : ∀ payload ∈ pinDialogs, payload ∈ s.pinDialogs)
    (hconfirms : ∀ a ∈ confirmDialogs, a ∈ s.confirmDialogs) :
    Writes wordlist validate c d e
      { s with pinDialogs := pinDialogs, confirmDialogs := confirmDialogs } :=
  ⟨h.typed, fun _ => h.validated (.inr hbusy), fun _ => h.checked (.inr hbusy), h.posts,
    fun payload hp => h.pinDialogs payload (hpins payload hp),
    fun a ha => h.confirmDialogs a (hconfirms a ha), h.file, h.origin⟩

theorem act_type {key : WalletImportSeedFragment.Event} {typed : WalletImportSeedFragment}
    (h : WalletImportSeedFragment.step wordlist s.mWalletImportSeedFragment key = some typed) :
    s.act wordlist validate c d e (.type key) = { s with mWalletImportSeedFragment := typed } := by
  unfold RestoreSeedScreen.act
  dsimp only
  rw [h]

theorem Writes.act (h : Writes wordlist validate c d e s) {event : Event}
    (hen : Enabled wordlist s event) (hok : Untouched s event) :
    Writes wordlist validate c d e (s.act wordlist validate c d e event) := by
  cases event with
  | type key =>
    obtain ⟨hshows, hsome⟩ := hen
    obtain ⟨typed, htyped⟩ := Option.isSome_iff_exists.mp hsome
    have hpage : s.currentItem = 0 := hshows.2.1
    rw [act_type htyped]
    refine ⟨h.typed.step htyped, ?_, ?_, h.posts, h.pinDialogs, h.confirmDialogs, h.file, h.origin⟩
    · rintro (hitem | hbusy)
      · exact absurd hitem (by show ¬1 ≤ s.currentItem; omega)
      · exact absurd hbusy hok
    · rintro (hitem | hbusy)
      · exact absurd hitem (by show ¬2 ≤ s.currentItem; omega)
      · exact absurd hbusy hok
  | typePassphrase text =>
    have hpage : s.currentItem = 1 := hen.2.1
    refine ⟨h.typed, h.validated, ?_, h.posts, h.pinDialogs, h.confirmDialogs, h.file, h.origin⟩
    rintro (hitem | hbusy)
    · exact absurd hitem (by show ¬2 ≤ s.currentItem; omega)
    · exact absurd hbusy hok
  | importMnemonics => exact h.importMnemonics
  | hideSeedError => exact h.same rfl rfl
  | goToPassphraseConfirmStep => exact h.goToPassphraseConfirmStep hen
  | encryptSeed => exact h.encryptSeed hen
  | back =>
    show Writes wordlist validate c d e (s.onBackPressed validate)
    unfold onBackPressed
    split
    · exact h.same rfl rfl
    · exact h.goToInit
    · exact h.importMnemonics
    · exact h
  | thread => exact h.runThread hen
  | post post => exact h.runPost hen
  | pin payload newPin => exact h.runPin hen newPin
  | confirmPin payload newPin confirmPin env => exact h.confirmPin hen env confirmPin
  | pinGone payload =>
    have hbusy : Busy s := .inr (.inr (.inl (List.ne_nil_of_mem hen)))
    exact h.fewer hbusy (fun _ hp => List.mem_of_mem_erase hp) fun _ ha => ha
  | confirmGone payload newPin =>
    have hbusy : Busy s := .inr (.inr (.inr (List.ne_nil_of_mem hen)))
    exact h.fewer hbusy (fun _ hp => hp) fun _ ha => List.mem_of_mem_erase ha
  | startup => exact h.same rfl rfl

/-- The screen is opened on a phone without a seed file. -/
def Starts (s : RestoreSeedScreen) : Prop :=
  ∃ phone : Phone, fileAt phone.datadir SEED_NAME = none ∧ s = { phone := phone }

theorem writes_of_reach (h : Reach (step wordlist validate c d e) Untouched Starts s) :
    Writes wordlist validate c d e s := by
  refine Reach.invariant (I := Writes wordlist validate c d e) ?_ ?_ s h
  · rintro s ⟨phone, hfile, rfl⟩
    refine ⟨⟨⟨by simp, List.isChain_nil⟩, by simp⟩, ?_, ?_, nofun, nofun, nofun, ?_, rfl⟩
    · simp [Busy]
    · simp [Busy]
    · intro content hcontent
      rw [hfile] at hcontent
      cases hcontent
  · intro s event s' hs hok hstep
    obtain ⟨hen, rfl⟩ := (step_eq_some_iff wordlist validate c d e).mp hstep
    exact hs.act hen hok

/-- **What the screen writes.**  In every run in which nothing is typed while an encryption is under
way, a seed file opens with a complete PIN, decodes to the words of a phrase that was validated and
a passphrase that was checked with it, and has a seed; and the wallet counts as restored, so that
its channels are looked for at the start. -/
theorem restoredSeed_of_reach (hc : c.Lawful) (hinv : Inverse d e)
    (h : Reach (step wordlist validate c d e) Untouched Starts s)
    (hread : ∀ a ∈ s.encoded, ReadsBack d e (mnemonicsFields a.1 (some a.2)))
    (hfile : fileAt s.phone.datadir SEED_NAME ≠ none) :
    (∃ text passphrase pin opened blob seed, validate (mnemonics text) = .ok () ∧
      pin.length = PIN_LENGTH ∧
      readSeedAndDecrypt c s.phone.datadir pin = .ok (opened, blob) ∧
      decodeV2MnemonicsBlob d blob = .ok (split (mnemonics text), passphrase) ∧
      (∀ w ∈ split (mnemonics text), w ≠ "") ∧
      decodeSeed d opened blob = .ok seed ∧
      mnemonicsToSeed d (split (mnemonics text)) passphrase = .ok seed) ∧
    s.walletOrigin.getD WALLET_ORIGIN_RESTORED_FROM_SEED = WALLET_ORIGIN_RESTORED_FROM_SEED := by
  have hwrites := writes_of_reach h
  obtain ⟨content, hcontent⟩ := Option.ne_none_iff_exists'.mp hfile
  obtain ⟨pin, payload, hpin, hpayload, hholds⟩ := hwrites.file content hcontent
  obtain ⟨text, passphrase, hvalidated, ⟨seed, hseed⟩, hwords, hmem, hencode⟩ := hpayload
  obtain ⟨opened, hopen, hversion⟩ := hholds.opens hc
  refine ⟨?_, hwrites.origin⟩
  have hblob := decodeV2MnemonicsBlob_encode hinv
    (RestoreSeedActivity.split_ne_nil hvalidated.ne_empty)
    (RestoreSeedActivity.blank_not_mem_of_mem_split _) (some passphrase) (hread _ hmem)
  rw [encodeMnemonics_v2] at hencode
  obtain rfl := Except.ok.inj hencode
  refine ⟨text, passphrase, pin, opened, _, seed, hvalidated.validate, hpin, hopen, hblob, hwords,
    ?_, hseed⟩
  unfold decodeSeed
  rw [hversion, if_neg (by decide), if_pos rfl, hblob]
  exact hseed

end

/-! ### A run to the seed file -/

namespace KnownRun

open Known

open CreateSeedActivity.KnownRun (zooWords zooDecoders emptyPhone readsBack_zooWords)

def zooWordlist : EnglishWordlist where
  words := ["wrong", "zoo"]
  ne_empty := by decide
  letters := by simp

/-- The checksum of the phrase is right, and that of no other text counts. -/
def validateZoo (text : String) : Except String Unit :=
  if text = String.intercalate " " zooWords then .ok () else .error "invalid mnemonic code"

def zooPhrase : String := String.intercalate " " zooWords

theorem mnemonics_zooPhrase : mnemonics zooPhrase.toList = zooPhrase := by
  apply String.toList_injective
  rw [RestoreSeedActivity.toList_mnemonics]
  decide +kernel

theorem split_zooPhrase : split zooPhrase = zooWords := by
  have hne : zooPhrase ≠ "" := by decide +kernel
  unfold split
  rw [if_neg hne, zooPhrase, splitOn_intercalate (by decide) (by decide +kernel)]
  decide +kernel

def start : RestoreSeedScreen := { phone := emptyPhone }

/-- The phrase is typed, and its last word is suggested. -/
def typed : RestoreSeedScreen :=
  { start with
    mWalletImportSeedFragment := { spanBuilder := zooPhrase.toList, autocomplete := ["wrong"] } }

/-- The phrase is accepted, and the seed is to be encrypted without a passphrase. -/
def imported : RestoreSeedScreen :=
  { typed with currentItem := 1, importStep := 1, encryption := some none }

def encrypting : RestoreSeedScreen :=
  { imported with currentItem := 2, importStep := SEED_SPAWN_ENCRYPTION, threads := 1 }

def encoded : RestoreSeedScreen :=
  { encrypting with threads := 0, posts := [.encryptWallet blob], encoded := [(zooWords, "")] }

def zooStep : RestoreSeedScreen → Event → Option RestoreSeedScreen :=
  step zooWordlist validateZoo crypto zooDecoders mnemonicEncoders

theorem run_keys {s s' : RestoreSeedScreen} {keys : List ℤ}
    (h : run zooStep s (keys.map fun key => .type (.key key)) = some s') :
    s' = { s with mWalletImportSeedFragment := s'.mWalletImportSeedFragment } := by
  induction keys generalizing s with
  | nil =>
    cases h
    rfl
  | cons key keys ih =>
    rw [List.map_cons, run_cons, Option.bind_eq_some_iff] at h
    obtain ⟨s₁, h1, h2⟩ := h
    obtain ⟨⟨-, hsome⟩, rfl⟩ := (step_eq_some_iff _ _ _ _ _).mp h1
    obtain ⟨f, hf⟩ := Option.isSome_iff_exists.mp hsome
    have hs' := ih h2
    simp only [act, hf] at hs'
    exact hs'

def keys : List ℤ := zooPhrase.toList.map fun c => (c.toNat : ℤ)

theorem run_typed : run zooStep start (keys.map fun key => .type (.key key)) = some typed := by
  have htext : (run zooStep start (keys.map fun key => .type (.key key))).map
      (·.mWalletImportSeedFragment) = some typed.mWalletImportSeedFragment := by decide +kernel
  obtain ⟨s, hs, hf⟩ := Option.map_eq_some_iff.mp htext
  have heq := run_keys hs
  rw [hf] at heq
  exact hs.trans (congrArg some heq)

theorem importMnemonics_of_ok {validate : String → Except String Unit} {s : RestoreSeedScreen}
    {phrase : String}
    (h : RestoreSeedActivity.importMnemonics validate s.mnemonicsInput = .ok phrase) :
    s.importMnemonics validate = goToPassphrase { s with hidings := 0 } := by
  have hread : RestoreSeedActivity.importMnemonics validate
      (mnemonicsInput { s with hidings := 0 }) = .ok phrase := h
  unfold RestoreSeedScreen.importMnemonics
  dsimp only
  rw [hread]

theorem step_imported : zooStep typed .importMnemonics = some imported := by
  have hok : RestoreSeedActivity.importMnemonics validateZoo zooPhrase.toList = .ok zooPhrase := by
    unfold RestoreSeedActivity.importMnemonics
    rw [mnemonics_zooPhrase]
    decide +kernel
  exact (step_eq_some_iff _ _ _ _ _).mpr ⟨⟨rfl, rfl, by decide⟩, importMnemonics_of_ok hok⟩

theorem runThread_of_ok {d : SeedDecoders} {e : SeedEncoders} {s : RestoreSeedScreen}
    {words : List String} {seed : Bytes}
    (hwords : RestoreSeedActivity.encryptSeed s.mnemonicsInput = .ok words)
    (hseed : encodeMnemonics d e EncryptedSeed.SEED_FILE_VERSION_2 words
      (some s.passphraseInput) = .ok seed) :
    s.runThread d e = { s with
      threads := s.threads - 1
      posts := .encryptWallet seed :: s.posts
      encoded := (words, s.passphraseInput) :: s.encoded } := by
  have hread : RestoreSeedActivity.encryptSeed
      (mnemonicsInput { s with threads := s.threads - 1 }) = .ok words := hwords
  unfold RestoreSeedScreen.runThread
  dsimp only
  rw [hread]
  dsimp only
  rw [hseed]

theorem step_encoded : zooStep encrypting .thread = some encoded := by
  have hok : RestoreSeedActivity.encryptSeed zooPhrase.toList = .ok zooWords := by
    unfold RestoreSeedActivity.encryptSeed
    rw [mnemonics_zooPhrase, split_zooPhrase]
    decide +kernel
  have hblob : encodeMnemonics zooDecoders mnemonicEncoders EncryptedSeed.SEED_FILE_VERSION_2
      zooWords (some "") = .ok blob := by decide +kernel
  exact (step_eq_some_iff _ _ _ _ _).mpr ⟨by decide, runThread_of_ok hok hblob⟩

theorem reach_encoded : Reach zooStep Untouched Starts encoded := by
  have htyped : Reach zooStep Untouched Starts typed :=
    reach_of_meets ⟨emptyPhone, rfl, rfl⟩ (by decide +kernel) run_typed
  have hencrypting : Reach zooStep Untouched Starts encrypting := by
    have himported : Reach zooStep Untouched Starts imported :=
      htyped.next (by decide) step_imported
    have hrun : run zooStep imported [.goToPassphraseConfirmStep, .encryptSeed] =
        some encrypting := rfl
    exact himported.run (by decide +kernel) hrun
  exact hencrypting.next (by decide) step_encoded

/-- Two different PINs, and then the same PIN twice. -/
def dialogs : List Event :=
  [.post (.encryptWallet blob), .pin blob pin,
    .confirmPin blob pin "654321" { salt := salt, iv := iv }, .confirmGone blob pin, .pin blob pin,
    .confirmPin blob pin pin { salt := salt, iv := iv }]

theorem run_dialogs : (run zooStep encoded dialogs).map
    (fun s => (s.encoded, fileAt s.phone.datadir SEED_NAME)) =
      some ([(zooWords, "")], some seedFile) := by
  decide +kernel

theorem restoredSeed_of_reach_zoo : ∃ s : RestoreSeedScreen,
    fileAt s.phone.datadir SEED_NAME = some seedFile ∧
    (∃ text passphrase pin opened blob seed, validateZoo (mnemonics text) = .ok () ∧
      pin.length = PIN_LENGTH ∧
      readSeedAndDecrypt crypto s.phone.datadir pin = .ok (opened, blob) ∧
      decodeV2MnemonicsBlob zooDecoders blob = .ok (split (mnemonics text), passphrase) ∧
      (∀ w ∈ split (mnemonics text), w ≠ "") ∧
      decodeSeed zooDecoders opened blob = .ok seed ∧
      mnemonicsToSeed zooDecoders (split (mnemonics text)) passphrase = .ok seed) ∧
    s.walletOrigin.getD WALLET_ORIGIN_RESTORED_FROM_SEED = WALLET_ORIGIN_RESTORED_FROM_SEED := by
  obtain ⟨s, hs, hview⟩ := Option.map_eq_some_iff.mp run_dialogs
  obtain ⟨hencoded, hfile⟩ := Prod.mk.inj hview
  have hreach : Reach (step zooWordlist validateZoo crypto zooDecoders mnemonicEncoders) Untouched
      Starts s :=
    reach_encoded.run (by decide +kernel) hs
  have hinv : Inverse zooDecoders mnemonicEncoders := ⟨hexDecode_hexEncode, utf8_toByteArray⟩
  refine ⟨s, hfile, restoredSeed_of_reach (Crypto.ofKnown_lawful answers) hinv hreach ?_ ?_⟩
  · rw [hencoded]
    simpa using readsBack_zooWords
  · rw [hfile]
    exact Option.some_ne_none _

end KnownRun

end RestoreSeedScreen

end EclairMobile
