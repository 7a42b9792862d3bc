import EclairMobile.Activities.CreateSeedActivity
import EclairMobile.Fragments.WalletImportSeedFragment

/-!
# RestoreSeedActivity

The screen that restores a wallet from its recovery phrase.  The phrase is typed on the first page
and validated, the passphrase on the second, and the third page encrypts them under a PIN.  The
thread that encodes the seed reads the fields when it runs, not when it is started.
-/

namespace EclairMobile

open Lib AesCbcWithIntegrity WalletUtils EclairActivity

/-- What `handleSeedError` displays. -/
inductive ImportError
  | seed (e : RestoreSeedActivity.SeedError)
  | importwallet_error (t : Throwable)
  deriving DecidableEq, Repr

/-- The text of the first page is that of the keyboard, also after its view was created again. -/
structure RestoreSeedScreen where
  mWalletImportSeedFragment : WalletImportSeedFragment := {}
  seedError : Option ImportError := none
  /-- The actions of `seedErrorHandler`. -/
  hidings : ℕ := 0
  passphraseInput : String := ""
  currentItem : ℕ := 0
  importStep : ℕ := 0
  /-- The third page, with the error it displays, from the moment the pager created it. -/
  encryption : Option (Option Message) := none
  /-- The threads of `encryptSeed`. -/
  threads : ℕ := 0
  posts : List SeedPost := []
  /-- The dialogs that ask for a new PIN, and those that ask for it again. -/
  pinDialogs : List Bytes := []
  confirmDialogs : List (Bytes × String) := []
  /-- `goToStartup` is posted this many times. -/
  startups : ℕ := 0
  finished : Bool := false
  phone : Phone
  walletOrigin : Option ℕ := none
  /-- History: the words and the passphrases that were encoded. -/
  encoded : List (List String × String) := []

namespace RestoreSeedScreen

/-! ### Pages -/

def mnemonicsInput (s : RestoreSeedScreen) : List Char := s.mWalletImportSeedFragment.spanBuilder

/-- `viewPager.setCurrentItem`, with `onPageSelected` if the page changes. -/
def setCurrentItem (item : ℕ) (s : RestoreSeedScreen) : RestoreSeedScreen :=
  if s.currentItem = item then s
  else
    { s with
      currentItem := item
      importStep := item
      encryption := if CreateSeedActivity.isNear 2 item then some (s.encryption.getD none)
        else s.encryption }

def goToInit (s : RestoreSeedScreen) : RestoreSeedScreen := s.setCurrentItem 0

def goToPassphrase (s : RestoreSeedScreen) : RestoreSeedScreen := s.setCurrentItem 1

def goToEncryption (s : RestoreSeedScreen) : RestoreSeedScreen := s.setCurrentItem 2

def goToStartup (s : RestoreSeedScreen) : RestoreSeedScreen := { s with finished := true }

/-- The first page exists from the start. -/
def handleSeedError (e : ImportError) (s : RestoreSeedScreen) : RestoreSeedScreen :=
  { s with seedError := some e, hidings := s.hidings + 1 }

/-- `validate` is that of `MnemonicCode`. -/
def importMnemonics (validate : String → Except String Unit) (s : RestoreSeedScreen) :
    RestoreSeedScreen :=
  let s := { s with hidings := 0 }
  match RestoreSeedActivity.importMnemonics validate s.mnemonicsInput with
  | .ok _ => s.goToPassphrase
  | .error e => s.handleSeedError (.seed e)

def goToPassphraseConfirmStep (d : SeedDecoders) (s : RestoreSeedScreen) : RestoreSeedScreen :=
  -- check validity
  match mnemonicsToSeed d (RestoreSeedActivity.split (RestoreSeedActivity.mnemonics
      s.mnemonicsInput)) s.passphraseInput with
  | .ok _ => s.goToEncryption
  | .error t => s.goToInit.handleSeedError (.importwallet_error t)

/-! ### The encryption -/

def encryptSeed (s : RestoreSeedScreen) : RestoreSeedScreen :=
  { s with
    encryption := s.encryption.map fun _ => none
    importStep := SEED_SPAWN_ENCRYPTION
    threads := s.threads + 1 }

/-- The thread of `encryptSeed`. -/
def runThread (d : SeedDecoders) (e : SeedEncoders) (s : RestoreSeedScreen) : RestoreSeedScreen :=
  let s := { s with threads := s.threads - 1 }
  match RestoreSeedActivity.encryptSeed s.mnemonicsInput with
  | .error _ => { s with posts := .writeError :: s.posts }
  | .ok words =>
    match encodeMnemonics d e EncryptedSeed.SEED_FILE_VERSION_2 words (some s.passphraseInput) with
    | .ok seed =>
      { s with
        posts := .encryptWallet seed :: s.posts
        encoded := (words, s.passphraseInput) :: s.encoded }
    | .error _ => { s with posts := .writeError :: s.posts }

def runPost (post : SeedPost) (s : RestoreSeedScreen) : RestoreSeedScreen :=
  let s := { s with posts := s.posts.erase post }
  match post with
  | .encryptWallet payload =>
    if s.finished then s else { s with pinDialogs := payload :: s.pinDialogs }
  | .writeError => { s with importStep := SEED_SPAWN_ERROR, startups := s.startups + 1 }

/-- The callback of `encryptWallet`. -/
def callback (s : RestoreSeedScreen) : Shown → RestoreSeedScreen
  | .onEncryptSeedFailure message =>
    if s.encryption.isSome then
      { goToEncryption { s with importStep := 2 } with encryption := some (some message) }
    else s.goToStartup
  | .onEncryptSeedSuccess =>
    { s with
      importStep := SEED_SPAWN_COMPLETE
      walletOrigin := some WALLET_ORIGIN_RESTORED_FROM_SEED
      startups := s.startups + 1 }
  | .toast _ => s

/-- The first dialog opens the second. -/
def runPin (payload : Bytes) (newPin : String) (s : RestoreSeedScreen) : RestoreSeedScreen :=
  if s.finished then s else { s with confirmDialogs := (payload, newPin) :: s.confirmDialogs }

/-- The PIN is entered again. -/
def confirmPin (c : Crypto) (env : CreateSeedActivity.WriteEnv) (payload : Bytes)
    (newPin confirmPin : String) (s : RestoreSeedScreen) : RestoreSeedScreen :=
  let phone := CreateSeedActivity.encrypted c env payload newPin confirmPin s.phone
  phone.shown.foldl callback { s with phone := phone }

/-! ### Events -/

/-- A dialog that is dismissed may still call back, until its delayed actions are over. -/
inductive Event
  | type (key : WalletImportSeedFragment.Event)
  | importMnemonics
  | hideSeedError
  | typePassphrase (text : String)
  | goToPassphraseConfirmStep
  | encryptSeed
  | back
  | thread
  | post (post : SeedPost)
  | pin (payload : Bytes) (newPin : String)
  | pinGone (payload : Bytes)
  | confirmPin (payload : Bytes) (newPin confirmPin : String) (env : CreateSeedActivity.WriteEnv)
  | confirmGone (payload : Bytes) (newPin : String)
  | startup

/-- The buttons and fields of a page answer while it is displayed. -/
def Shows (page : ℕ) (s : RestoreSeedScreen) : Prop :=
  s.finished = false ∧ s.currentItem = page ∧ s.importStep < SEED_SPAWN_ENCRYPTION

instance (page : ℕ) (s : RestoreSeedScreen) : Decidable (Shows page s) :=
  inferInstanceAs (Decidable (_ ∧ _))

def onBackPressed (validate : String → Except String Unit) (s : RestoreSeedScreen) :
    RestoreSeedScreen :=
  match s.currentItem with
  | 0 => s.goToStartup
  | 1 => s.goToInit
  | 2 => s.importMnemonics validate
  | _ => s

section

variable (wordlist : EnglishWordlist) (validate : String → Except String Unit) (c : Crypto)
  (d : SeedDecoders) (e : SeedEncoders)

/-- Which events are possible. -/
def Enabled (s : RestoreSeedScreen) : Event → Prop
  | .type key => s.Shows 0 ∧
      (WalletImportSeedFragment.step wordlist s.mWalletImportSeedFragment key).isSome
  | .importMnemonics => s.Shows 0
  | .hideSeedError => s.seedError.isSome
  | .typePassphrase _ | .goToPassphraseConfirmStep => s.Shows 1
  | .encryptSeed => s.Shows 2
  | .back => s.finished = false
  | .thread => 0 < s.threads
  | .post post => post ∈ s.posts
  | .pin payload _ | .pinGone payload => payload ∈ s.pinDialogs
  | .confirmPin payload newPin _ _ | .confirmGone payload newPin =>
    (payload, newPin) ∈ s.confirmDialogs
  | .startup => 0 < s.startups

instance (s : RestoreSeedScreen) : DecidablePred (Enabled wordlist s)
  | .type _ => inferInstanceAs (Decidable (_ ∧ _))
  | .importMnemonics => inferInstanceAs (Decidable (s.Shows 0))
  | .hideSeedError => inferInstanceAs (Decidable (_ = _))
  | .typePassphrase _ | .goToPassphraseConfirmStep => inferInstanceAs (Decidable (s.Shows 1))
  | .encryptSeed => inferInstanceAs (Decidable (s.Shows 2))
  | .back => inferInstanceAs (Decidable (_ = _))
  | .thread | .startup => inferInstanceAs (Decidable (_ < _))
  | .post _ => inferInstanceAs (Decidable (_ ∈ s.posts))
  | .pin _ _ | .pinGone _ => inferInstanceAs (Decidable (_ ∈ s.pinDialogs))
  | .confirmPin _ _ _ _ | .confirmGone _ _ => inferInstanceAs (Decidable (_ ∈ s.confirmDialogs))

/-- What an event does. -/
def act (s : RestoreSeedScreen) : Event → RestoreSeedScreen
  | .type key =>
    match WalletImportSeedFragment.step wordlist s.mWalletImportSeedFragment key with
    | some typed => { s with mWalletImportSeedFragment := typed }
    | none => s
  | .importMnemonics => s.importMnemonics validate
  | .hideSeedError => { s with seedError := none, hidings := s.hidings - 1 }
  | .typePassphrase text => { s with passphraseInput := text }
  | .goToPassphraseConfirmStep => s.goToPassphraseConfirmStep d
  | .encryptSeed => s.encryptSeed
  | .back => s.onBackPressed validate
  | .thread => s.runThread d e
  | .post post => s.runPost post
  | .pin payload newPin => s.runPin payload newPin
  | .pinGone payload => { s with pinDialogs := s.pinDialogs.erase payload }
  | .confirmPin payload newPin confirmPin env => s.confirmPin c env payload newPin confirmPin
  | .confirmGone payload newPin =>
    { s with confirmDialogs := s.confirmDialogs.erase (payload, newPin) }
  | .startup => { s.goToStartup with startups := s.startups - 1 }

/-- One event, if it is possible. -/
def step (s : RestoreSeedScreen) (event : Event) : Option RestoreSeedScreen :=
  if Enabled wordlist s event then some (s.act wordlist validate c d e event) else none

theorem step_eq_some_iff {s s' : RestoreSeedScreen} {event : Event} :
    step wordlist validate c d e s event = some s' ↔
      Enabled wordlist s event ∧ s.act wordlist validate c d e event = s' := by
  unfold step
  split_ifs with h
  · simp [h]
  · simp [h]

end

end RestoreSeedScreen

end EclairMobile
