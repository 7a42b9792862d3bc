import EclairMobile.Activities.SeedWrites
import EclairMobile.Lib.Reach
import Mathlib.Data.List.Sort

/-!
# CreateSeedActivity

The screen that creates a wallet: it shows the recovery phrase, asks for three of its words, takes a
passphrase twice and a PIN twice, and writes the seed file.  The user may go back from every page,
and threads, posted actions and dialogs stay behind when the page changes.

The seed file is written only after three words at three different positions were right, and it
holds the phrase that was shown with a passphrase that was entered twice.
-/

namespace EclairMobile

open Lib AesCbcWithIntegrity WalletUtils EclairActivity

/-- `Character.toUpperCase` and `Character.toLowerCase`. -/
structure CharCases where
  toUpperCase : Char → Char
  toLowerCase : Char → Char

/-- `String.equalsIgnoreCase`. -/
def CharCases.equalsIgnoreCase (k : CharCases) (a b : String) : Bool :=
  a.toList.length = b.toList.length && (a.toList.zip b.toList).all fun (x, y) =>
    x = y || k.toUpperCase x = k.toUpperCase y ||
      k.toLowerCase (k.toUpperCase x) = k.toLowerCase (k.toUpperCase y)

def SEED_SPAWN_ENCRYPTION : ℕ := 8
def SEED_SPAWN_COMPLETE : ℕ := 9
def SEED_SPAWN_ERROR : ℕ := 10

/-- The page that asks for three words; the question names the positions, counted from one. -/
structure CheckWordsBinding where
  checkQuestion : List ℕ := []
  checkInput1 : String := ""
  checkInput2 : String := ""
  checkInput3 : String := ""
  verificationError : Bool := false
  deriving DecidableEq, Repr

structure PassphraseBinding where
  passphraseInput : String := ""
  passphraseError : Bool := false
  deriving DecidableEq, Repr

/-- What a thread posts to the main thread. -/
inductive SeedPost
  | encryptWallet (payload : Bytes)
  | writeError
  deriving DecidableEq, Repr

/-- The bindings of the pages are null until the pager creates the page. -/
structure CreateSeedActivity where
  mMnemonics : Option (List String)
  recoveryPositions : List ℕ := List.range 12
  mMnemonicsVerified : Bool := false
  mPassphrase : String := ""
  currentItem : ℕ := 0
  creationStep : ℕ := 0
  checkWords : Option CheckWordsBinding := some {}
  passphrase : Option PassphraseBinding := none
  passphraseConfirmInput : Option String := none
  /-- The page of the encryption, with the error it displays. -/
  encryption : Option (Option Message) := none
  /-- A new question is posted. -/
  verifPosted : Bool := false
  /-- The threads of `encryptSeed`. -/
  threads : ℕ := 0
  posts : List SeedPost := []
  /-- The dialogs that ask for a new PIN, and those that ask for it again. -/
  pinDialogs : List Bytes := []
  confirmDialogs : List (Bytes × String) := []
  /-- `goToStartup` is posted this many times. -/
  startups : ℕ := 0
  finished : Bool := false
  phone : Phone
  walletOrigin : Option ℕ := none
  /-- History: the positions that were asked for and the words that were accepted for them. -/
  checked : List (List (ℕ × String)) := []
  /-- History: the passphrases that both fields held. -/
  confirmed : List String := []

namespace CreateSeedActivity

/-! ### Pages -/

/-- The pager keeps the page and its neighbours. -/
def isNear (page item : ℕ) : Bool := page ≤ item + 1 && item ≤ page + 1

/-- `viewPager.setCurrentItem`, with `onPageSelected` if the page changes. -/
def setCurrentItem (item : ℕ) (s : CreateSeedActivity) : CreateSeedActivity :=
  if s.currentItem = item then s
  else
    { s with
      currentItem := item
      creationStep := item
      checkWords := if isNear 1 item then some (s.checkWords.getD {}) else s.checkWords
      passphrase := if isNear 2 item then some (s.passphrase.getD {}) else s.passphrase
      passphraseConfirmInput :=
        if isNear 3 item then some (s.passphraseConfirmInput.getD "") else s.passphraseConfirmInput
      encryption := if isNear 4 item then some (s.encryption.getD none) else s.encryption }

def goToInit (s : CreateSeedActivity) : CreateSeedActivity := s.setCurrentItem 0

def goToPassphraseStep (s : CreateSeedActivity) : CreateSeedActivity := s.setCurrentItem 2

def goToStartup (s : CreateSeedActivity) : CreateSeedActivity := { s with finished := true }

/-! ### The words -/

/-- `getFirst3Positions` sorts the first positions in place. -/
def sortFirst3 (positions : List ℕ) : List ℕ :=
  (positions.take 3).insertionSort (· ≤ ·) ++ positions.drop 3

def getFirst3Positions (positions : List ℕ) : List ℕ := (sortFirst3 positions).take 3

def setVerificationError (visible : Bool) (s : CreateSeedActivity) : CreateSeedActivity :=
  { s with checkWords := s.checkWords.map fun w => { w with verificationError := visible } }

/-- `shuffled` is what `Collections.shuffle` makes of the positions. -/
def setUpCheckWords (shuffled : List ℕ) (s : CreateSeedActivity) : CreateSeedActivity :=
  let s := { s with recoveryPositions := sortFirst3 shuffled }
  match s.checkWords with
  | none => s.goToInit
  | some w =>
    { s with
      checkWords := some { w with
        checkQuestion := (getFirst3Positions shuffled).map (· + 1)
        checkInput1 := ""
        checkInput2 := ""
        checkInput3 := "" } }

def goToVerificationStep (shuffled : List ℕ) (s : CreateSeedActivity) : CreateSeedActivity :=
  let s := { s with verifPosted := false }
  if s.checkWords.isSome then
    let s := s.setVerificationError false
    if s.mMnemonicsVerified then s.goToPassphraseStep
    else (s.setUpCheckWords shuffled).setCurrentItem 1
  else s.goToInit

/-- An exception of the check has the same handler as a word that is wrong. -/
def checkWordRecoveryPhrase (k : CharCases) (s : CreateSeedActivity) (position : ℕ)
    (word : String) : Bool :=
  ((s.mMnemonics.getD [])[position]?).any fun w => k.equalsIgnoreCase w word

/-- The words that were entered, trimmed. -/
def userWords (w : CheckWordsBinding) : List String :=
  [trim w.checkInput1, trim w.checkInput2, trim w.checkInput3]

/-- Each word stands at its position. -/
def wordsMatch (k : CharCases) (s : CreateSeedActivity) (w : CheckWordsBinding) : Bool :=
  ((getFirst3Positions s.recoveryPositions).zip (userWords w)).all fun (position, word) =>
    checkWordRecoveryPhrase k s position word

def verifyUserBackup (k : CharCases) (s : CreateSeedActivity) : CreateSeedActivity :=
  let s := ({ s with verifPosted := false }).setVerificationError false
  match s.checkWords with
  | none => { s with verifPosted := true, mMnemonicsVerified := false }
  | some w =>
    let matching := wordsMatch k s w
    let s := { s with recoveryPositions := sortFirst3 s.recoveryPositions }
    if matching then
      goToPassphraseStep { s with
        mMnemonicsVerified := true
        checked := s.checked ++ [w.checkQuestion.zip (userWords w)] }
    else { s.setVerificationError true with verifPosted := true, mMnemonicsVerified := false }

/-- The posted action behind a wrong word. -/
def runVerif (shuffled : List ℕ) (s : CreateSeedActivity) : CreateSeedActivity :=
  (setUpCheckWords shuffled { s with verifPosted := false }).setVerificationError false

/-! ### The passphrase -/

def setPassphraseError (visible : Bool) (s : CreateSeedActivity) : CreateSeedActivity :=
  { s with passphrase := s.passphrase.map fun p => { p with passphraseError := visible } }

def goToEncryptionStep (s : CreateSeedActivity) : CreateSeedActivity :=
  match s.passphrase, s.passphraseConfirmInput with
  | some p, some passphraseConfirm =>
    if p.passphraseInput = passphraseConfirm then
      { s.setCurrentItem 4 with
        mPassphrase := p.passphraseInput
        confirmed := s.confirmed ++ [p.passphraseInput] }
    else s.goToPassphraseStep.setPassphraseError true
  | _, _ => s.goToInit

def goToPassphraseConfirmStep (s : CreateSeedActivity) : CreateSeedActivity :=
  let s := s.setPassphraseError false
  let s := { s with passphraseConfirmInput := s.passphraseConfirmInput.map fun _ => "" }
  match s.passphrase with
  | none => s
  | some p => if p.passphraseInput = "" then s.goToEncryptionStep else s.setCurrentItem 3

/-! ### The encryption -/

def encryptSeed (s : CreateSeedActivity) : CreateSeedActivity :=
  { s with
    encryption := s.encryption.map fun _ => none
    creationStep := SEED_SPAWN_ENCRYPTION
    threads := s.threads + 1 }

/-- The thread of `encryptSeed`. -/
def runThread (d : SeedDecoders) (e : SeedEncoders) (s : CreateSeedActivity) :
    CreateSeedActivity :=
  let s := { s with threads := s.threads - 1 }
  match s.mMnemonics with
  | none => { s with posts := .writeError :: s.posts }
  | some mnemonics =>
    match encodeMnemonics d e EncryptedSeed.SEED_FILE_VERSION_2 mnemonics (some s.mPassphrase) with
    | .ok seed => { s with posts := .encryptWallet seed :: s.posts }
    | .error _ => { s with posts := .writeError :: s.posts }

def runPost (post : SeedPost) (s : CreateSeedActivity) : CreateSeedActivity :=
  let s := { s with posts := s.posts.erase post }
  match post with
  | .encryptWallet payload =>
    if s.finished then s else { s with pinDialogs := payload :: s.pinDialogs }
  | .writeError => { s with creationStep := SEED_SPAWN_ERROR, startups := s.startups + 1 }

/-- The callback of `encryptWallet`. -/
def callback (s : CreateSeedActivity) : Shown → CreateSeedActivity
  | .onEncryptSeedFailure message =>
    goToEncryptionStep { s with
      encryption := s.encryption.map fun _ => some message
      creationStep := 4 }
  | .onEncryptSeedSuccess =>
    { s with
      creationStep := SEED_SPAWN_COMPLETE
      walletOrigin := some WALLET_ORIGIN_FROM_SCRATCH
      startups := s.startups + 1 }
  | .toast _ => s

/-- What `encryptWallet` meets: its faults, and the salt and the vector it draws. -/
structure WriteEnv where
  faults : EncryptFaults := {}
  salt : RandomBytes PBE_SALT_LENGTH_BITS
  iv : RandomBytes IV_LENGTH_BYTES

/-- The phone after the second dialog. -/
def encrypted (c : Crypto) (env : WriteEnv) (payload : Bytes) (newPin confirmPin : String)
    (phone : Phone) : Phone :=
  ((EclairActivity.encryptWallet c env.faults payload EncryptedSeed.SEED_FILE_VERSION_2
    (some newPin) confirmPin env.salt env.iv).exec { phone with shown := [] }).2

/-- The first dialog opens the second. -/
def runPin (payload : Bytes) (newPin : String) (s : CreateSeedActivity) : CreateSeedActivity :=
  if s.finished then s else { s with confirmDialogs := (payload, newPin) :: s.confirmDialogs }

/-- The PIN is entered again. -/
def confirmPin (c : Crypto) (env : WriteEnv) (payload : Bytes) (newPin confirmPin : String)
    (s : CreateSeedActivity) : CreateSeedActivity :=
  let phone := encrypted c env payload newPin confirmPin s.phone
  phone.shown.foldl callback { s with phone := phone }

/-! ### Events -/

/-- A dialog may call back more than once while it is being dismissed, so none is ever taken from
the list. -/
inductive Event
  | resume
  | back
  | goToVerificationStep (shuffled : List ℕ)
  | typeWords (word1 word2 word3 : String)
  | verifyUserBackup
  /-- The button that skips the question, on the test network. -/
  | skip
  | verif (shuffled : List ℕ)
  | typePassphrase (text : String)
  | goToPassphraseConfirmStep
  | typeConfirm (text : String)
  | goToEncryptionStep
  | encryptSeed
  | thread
  | post (post : SeedPost)
  | pin (payload : Bytes) (newPin : String)
  | confirmPin (payload : Bytes) (newPin confirmPin : String) (env : WriteEnv)
  | startup

/-- The buttons and fields of a page answer while it is displayed. -/
def Shows (page : ℕ) (s : CreateSeedActivity) : Prop :=
  s.finished = false ∧ s.currentItem = page ∧ s.creationStep < SEED_SPAWN_ENCRYPTION

instance (page : ℕ) (s : CreateSeedActivity) : Decidable (Shows page s) :=
  inferInstanceAs (Decidable (_ ∧ _))

def onBackPressed (s : CreateSeedActivity) : CreateSeedActivity :=
  match s.currentItem with
  | 0 => s.goToStartup
  | 1 | 2 => s.goToInit
  | 3 | 4 => s.goToPassphraseStep
  | _ => s

def onResume (s : CreateSeedActivity) : CreateSeedActivity :=
  if s.mMnemonics.isNone then
    { s with creationStep := SEED_SPAWN_ERROR, startups := s.startups + 1 }
  else s

/-- Which events are possible. -/
def Enabled (testnet : Bool) (s : CreateSeedActivity) : Event → Prop
  | .resume | .back => s.finished = false
  | .goToVerificationStep shuffled => s.Shows 0 ∧ shuffled.Perm s.recoveryPositions
  | .typeWords _ _ _ | .verifyUserBackup => s.Shows 1
  | .skip => s.Shows 1 ∧ testnet = true
  | .verif shuffled => s.verifPosted = true ∧ shuffled.Perm s.recoveryPositions
  | .typePassphrase _ | .goToPassphraseConfirmStep => s.Shows 2
  | .typeConfirm _ | .goToEncryptionStep => s.Shows 3
  | .encryptSeed => s.Shows 4
  | .thread => 0 < s.threads
  | .post post => post ∈ s.posts
  | .pin payload _ => payload ∈ s.pinDialogs
  | .confirmPin payload newPin _ _ => (payload, newPin) ∈ s.confirmDialogs
  | .startup => 0 < s.startups

instance (testnet : Bool) (s : CreateSeedActivity) : DecidablePred (Enabled testnet s)
  | .resume | .back => inferInstanceAs (Decidable (_ = _))
  | .goToVerificationStep _ => inferInstanceAs (Decidable (_ ∧ _))
  | .typeWords _ _ _ | .verifyUserBackup => inferInstanceAs (Decidable (s.Shows 1))
  | .skip => inferInstanceAs (Decidable (_ ∧ _))
  | .verif _ => inferInstanceAs (Decidable (_ ∧ _))
  | .typePassphrase _ | .goToPassphraseConfirmStep => inferInstanceAs (Decidable (s.Shows 2))
  | .typeConfirm _ | .goToEncryptionStep => inferInstanceAs (Decidable (s.Shows 3))
  | .encryptSeed => inferInstanceAs (Decidable (s.Shows 4))
  | .thread => inferInstanceAs (Decidable (_ < _))
  | .post _ => inferInstanceAs (Decidable (_ ∈ _))
  | .pin _ _ => inferInstanceAs (Decidable (_ ∈ _))
  | .confirmPin _ _ _ _ => inferInstanceAs (Decidable (_ ∈ _))
  | .startup => inferInstanceAs (Decidable (_ < _))

section

variable (c : Crypto) (d : SeedDecoders) (e : SeedEncoders) (k : CharCases)

/-- What an event does. -/
def act (s : CreateSeedActivity) : Event → CreateSeedActivity
  | .resume => s.onResume
  | .back => s.onBackPressed
  | .goToVerificationStep shuffled => s.goToVerificationStep shuffled
  | .typeWords word1 word2 word3 =>
    { s with checkWords := s.checkWords.map fun w =>
      { w with checkInput1 := word1, checkInput2 := word2, checkInput3 := word3 } }
  | .verifyUserBackup => s.verifyUserBackup k
  | .skip => s.goToPassphraseStep
  | .verif shuffled => s.runVerif shuffled
  | .typePassphrase text =>
    { s with passphrase := s.passphrase.map fun p => { p with passphraseInput := text } }
  | .goToPassphraseConfirmStep => s.goToPassphraseConfirmStep
  | .typeConfirm text =>
    { s with passphraseConfirmInput := s.passphraseConfirmInput.map fun _ => text }
  | .goToEncryptionStep => s.goToEncryptionStep
  | .encryptSeed => s.encryptSeed
  | .thread => s.runThread d e
  | .post post => s.runPost post
  | .pin payload newPin => s.runPin payload newPin
  | .confirmPin payload newPin confirmPin env => s.confirmPin c env payload newPin confirmPin
  | .startup => { s.goToStartup with startups := s.startups - 1 }

/-- One event, if it is possible. -/
def step (testnet : Bool) (s : CreateSeedActivity) (event : Event) : Option CreateSeedActivity :=
  if Enabled testnet s event then some (s.act c d e k event) else none

theorem step_eq_some_iff {testnet : Bool} {s s' : CreateSeedActivity} {event : Event} :
    step c d e k testnet s event = some s' ↔
      Enabled testnet s event ∧ s.act c d e k event = s' := by
  unfold step
  split_ifs with h
  · simp [h]
  · simp [h]

end

end CreateSeedActivity

end EclairMobile
