import EclairMobile.Lib.Reach
import EclairMobile.Utils.KeystoreHelper

/-!
# SecuritySettingsActivity

Biometric login is enrolled with a PIN that opens the seed file, and turned off by its own operation
or by a change of the PIN.  A change of the PIN replaces the file first: if it then fails before the
preference is off, biometric login goes on to release the old PIN.
-/

namespace EclairMobile

open Lib AesCbcWithIntegrity WalletUtils KeystoreHelper

open EclairActivity (EncryptFaults Accepted afterWrite encryptWallet display)

variable {SecretKey : Type}

namespace SecuritySettingsActivity

/-- How a biometric prompt ends: with one of the two callbacks of failure, or with the other. -/
inductive PromptEnd
  | onAuthenticationError
  | onAuthenticationSucceeded
  deriving DecidableEq, Repr

/-- What goes wrong in the steps of `enrollBiometrics`. -/
structure EnrollFaults where
  deleteKeyForPin : Option Throwable := none
  generateKeyForPin : Option Throwable := none
  getBiometricAuth : Option Throwable := none
  encryptPin : EncryptPinFaults := {}
  useBiometrics : Option Throwable := none
  makeText : Option Throwable := none

/-- What goes wrong in the steps of `disableBiometrics`. -/
structure DisableFaults where
  getBiometricAuth : Option Throwable := none
  useBiometrics : Option Throwable := none
  deleteKeyForPin : Option Throwable := none

def makeText (toast : BiometricToast) : Fallible (SignIn SecretKey) Throwable Unit :=
  modify fun s => { s with toasts := s.toasts ++ [toast] }

/-- `Prefs.useBiometrics(context, useBiometrics)`. -/
def setUseBiometrics (fault : Option Throwable) (useBiometrics : Bool) :
    Fallible (SignIn SecretKey) Throwable Unit :=
  Fallible.step fault fun s => { s with phone := { s.phone with useBiometrics := useBiometrics } }

variable (c : Crypto) (k : PinCipher SecretKey)

/-! ### The operations -/

/-- `onPinConfirm` of `enrollBiometrics`, and whether it shows the prompt. -/
def showEnrollPrompt (faults : EnrollFaults) (pinValue : String) (key : SecretKey) :
    Fallible (SignIn SecretKey) Throwable Bool :=
  tryCatch (do
    -- check that PIN is correct
    let s ← get
    let _ ← Fallible.ofExcept (readSeedAndDecrypt c s.phone.datadir pinValue)
    deleteKeyForPin faults.deleteKeyForPin
    generateKeyForPin faults.generateKeyForPin key
    Fallible.orThrow faults.getBiometricAuth
    pure true) fun
    | .generalSecurityException _ => do
      makeText .security_pin_failure
      pure false
    | .error message => throw (.error message)
    | _ => do
      makeText .security_biometric_error
      pure false

/-- The success callback of the prompt of `enrollBiometrics`. -/
def onEnrollSucceeded (faults : EnrollFaults) (pinValue : String) (iv : Bytes) :
    Fallible (SignIn SecretKey) Throwable Unit :=
  tryCatch (do
    encryptPin k faults.encryptPin pinValue iv
    setUseBiometrics faults.useBiometrics true
    Fallible.orThrow faults.makeText
    makeText .security_biometric_enabled) fun
    | .error message => throw (.error message)
    | _ => makeText .security_biometric_error

/-- With the PIN of the dialog, unless it is cancelled. -/
def enrollBiometrics (faults : EnrollFaults) (pinValue : Option String) (prompt : PromptEnd)
    (key : SecretKey) (iv : Bytes) : Fallible (SignIn SecretKey) Throwable Unit :=
  match pinValue with
  | none => pure ()
  | some pinValue => do
    let shown ← showEnrollPrompt c faults pinValue key
    if shown ∧ prompt = .onAuthenticationSucceeded then onEnrollSucceeded k faults pinValue iv

def disableBiometrics (faults : DisableFaults) (prompt : PromptEnd) :
    Fallible (SignIn SecretKey) Throwable Unit := do
  Fallible.orThrow faults.getBiometricAuth
  if prompt = .onAuthenticationSucceeded then
    tryCatch (do
      setUseBiometrics faults.useBiometrics false
      deleteKeyForPin faults.deleteKeyForPin) fun
      | .error message => throw (.error message)
      | _ => pure ()

/-- `changePassword` up to the dialogs for the new PIN, of which one is cancelled. -/
def changePasswordCancelled (pinValue : String) : Fallible Phone Throwable Unit := do
  let phone ← get
  match readSeedAndDecrypt c phone.datadir pinValue with
  | .ok _ => pure ()
  | .error (.generalSecurityException _) => display (.toast .security_pin_failure)
  | .error (.error message) => throw (.error message)
  | .error _ => display (.toast .seed_read_general_failure)

/-- With the PIN of the first dialog and the two entries of the new one, unless a dialog is
cancelled. -/
def changePassword (faults : EncryptFaults) (pinValue : Option String)
    (newPin : Option (Option String × String)) (salt : RandomBytes PBE_SALT_LENGTH_BITS)
    (iv : RandomBytes IV_LENGTH_BYTES) : Fallible Phone Throwable Unit :=
  match pinValue, newPin with
  | none, _ => pure ()
  | some pinValue, none => changePasswordCancelled c pinValue
  | some pinValue, some (newPinValue, confirmPinValue) =>
    EclairActivity.changePassword c faults pinValue newPinValue confirmPinValue salt iv

inductive Operation (SecretKey : Type)
  | enrollBiometrics (faults : EnrollFaults) (pinValue : Option String) (prompt : PromptEnd)
      (key : SecretKey) (iv : Bytes)
  | disableBiometrics (faults : DisableFaults) (prompt : PromptEnd)
  | changePassword (faults : EncryptFaults) (pinValue : Option String)
      (newPin : Option (Option String × String)) (salt : RandomBytes PBE_SALT_LENGTH_BITS)
      (iv : RandomBytes IV_LENGTH_BYTES)

/-- One operation from its click to its end.  The switch shows the preference and decides which of
the first two a click starts. -/
def step (s : SignIn SecretKey) : Operation SecretKey → Option (SignIn SecretKey)
  | .enrollBiometrics faults pinValue prompt key iv =>
    if s.phone.useBiometrics then none
    else some ((enrollBiometrics c k faults pinValue prompt key iv).exec s).2
  | .disableBiometrics faults prompt =>
    if s.phone.useBiometrics then some ((disableBiometrics faults prompt).exec s).2 else none
  | .changePassword faults pinValue newPin salt iv =>
    some { s with phone := ((changePassword c faults pinValue newPin salt iv).exec s.phone).2 }

/-! ### Biometric login that works -/

/-- The PIN opens the seed file. -/
def Opens (datadir : Datadir) (pin : String) : Prop :=
  ∃ opened, readSeedAndDecrypt c datadir pin = .ok opened

/-- **If biometric login is on, the PIN that is released opens the seed file.** -/
def SignsIn (s : SignIn SecretKey) : Prop :=
  s.phone.useBiometrics = true →
    ∃ pin, decryptPin k s = .ok (toByteArray pin) ∧ Opens c s.phone.datadir pin

/-- A change of the PIN that writes the seed file: the PIN of the first dialog opens the old one,
the new PIN is accepted, and no step of the write fails. -/
def Rewrites (phone : Phone) (faults : EncryptFaults) (pinValue : String)
    (newPinValue : Option String) (confirmPinValue : String) : Prop :=
  ∃ seed payload, readSeedAndDecrypt c phone.datadir pinValue = .ok (seed, payload) ∧
    Accepted newPinValue confirmPinValue ∧ faults.file.Passes c payload confirmPinValue

/-- Neither the PIN of the app nor the preference fails to be set behind the file. -/
def TurnsOff (faults : EncryptFaults) : Prop := faults.setPin = none ∧ faults.useBiometrics = none

/-- A change of the PIN that writes the seed file while biometric login is on also turns it off,
unless the new PIN is the one that is released anyway. -/
def Careful (s : SignIn SecretKey) : Operation SecretKey → Prop
  | .changePassword faults (some pinValue) (some (newPinValue, confirmPinValue)) _ _ =>
    s.phone.useBiometrics = true → Rewrites c s.phone faults pinValue newPinValue confirmPinValue →
      decryptPin k s = .ok (toByteArray confirmPinValue) ∨ TurnsOff faults
  | _ => True

/-- What a change of the PIN leaves of the biometric login: the file was not written, or the login
was turned off behind it, or a step in between failed. -/
inductive AfterChange (faults : EncryptFaults) (pinValue : String) (newPinValue : Option String)
    (confirmPinValue : String) (before after : Phone) : Prop
  | kept : ¬ Rewrites c before faults pinValue newPinValue confirmPinValue →
      after.useBiometrics = before.useBiometrics → after.keyForPin = before.keyForPin →
      (∀ pin, Opens c before.datadir pin → Opens c after.datadir pin) →
      AfterChange faults pinValue newPinValue confirmPinValue before after
  | off : TurnsOff faults → after.useBiometrics = false →
      AfterChange faults pinValue newPinValue confirmPinValue before after
  | outdated : ¬ TurnsOff faults → after.useBiometrics = before.useBiometrics →
      after.keyForPin = before.keyForPin → Opens c after.datadir confirmPinValue →
      Rewrites c before faults pinValue newPinValue confirmPinValue →
      AfterChange faults pinValue newPinValue confirmPinValue before after

section

variable {c} {k} {s : SignIn SecretKey}

theorem signsIn_of_off (h : s.phone.useBiometrics = false) : SignsIn c k s := by
  intro hon
  rw [h] at hon
  cases hon

/-! ### Enrolling and disabling -/

/-- Biometric login is off and the data directory is this one. -/
def Off (datadir : Datadir) (s : SignIn SecretKey) : Prop :=
  s.phone.useBiometrics = false ∧ s.phone.datadir = datadir

/-- Furthermore the PIN opens the seed file in it. -/
def Checked (c : Crypto) (datadir : Datadir) (pin : String) (s : SignIn SecretKey) : Prop :=
  Off datadir s ∧ Opens c datadir pin

theorem triple_makeText {P : SignIn SecretKey → Prop} {toast : BiometricToast}
    {R : Throwable → SignIn SecretKey → Prop} {T : SignIn SecretKey → Prop}
    (h : ∀ s, P s → T { s with toasts := s.toasts ++ [toast] }) :
    Fallible.Triple P (makeText toast) (fun _ => T) R := Fallible.triple_modify h

theorem triple_showEnrollPrompt (faults : EnrollFaults) (pinValue : String) (key : SecretKey)
    (datadir : Datadir) :
    Fallible.Triple (Off datadir) (showEnrollPrompt c faults pinValue key)
      (fun shown s => Off datadir s ∧ (shown = true → Opens c datadir pinValue))
      fun _ => Off datadir := by
  refine .tryCatch (R := fun _ => Off datadir) ?_ ?_
  · refine .bind (Q := fun s₀ s => Off datadir s ∧ s₀ = s)
      (Fallible.triple_get fun s h => ⟨h, rfl⟩) fun s₀ => ?_
    refine .bind (Q := fun _ => Checked c datadir pinValue)
      (Fallible.triple_ofExcept ?_ fun _ _ h => h.1) fun _ => ?_
    · rintro opened s hread ⟨h, rfl⟩
      rw [h.2] at hread
      exact ⟨h, opened, hread⟩
    refine .bind (Fallible.triple_step (T := Checked c datadir pinValue) (fun _ _ h => h)
      fun _ _ _ h => h.1) fun _ => ?_
    refine .bind (Fallible.triple_step (T := Checked c datadir pinValue) (fun _ _ h => h)
      fun _ _ _ h => h.1) fun _ => ?_
    refine .bind (Fallible.triple_orThrow (fun _ _ h => h) fun _ _ _ h => h.1) fun _ => ?_
    exact Fallible.triple_pure fun _ h => ⟨h.1, fun _ => h.2⟩
  · intro e
    have hreport : ∀ toast, Fallible.Triple (Off datadir)
        (do makeText toast; pure false : Fallible (SignIn SecretKey) Throwable Bool)
        (fun shown s => Off datadir s ∧ (shown = true → Opens c datadir pinValue))
        fun _ => Off datadir := by
      intro toast
      refine .bind (triple_makeText (T := Off datadir) fun _ h => h) fun _ => ?_
      exact Fallible.triple_pure fun _ h => ⟨h, fun hfalse => by cases hfalse⟩
    cases e with
    | error message => exact Fallible.triple_throw fun _ h => h
    | generalSecurityException message => exact hreport _
    | _ => exact hreport _

/-- The success of the prompt turns biometric login on only with the PIN that was checked. -/
theorem triple_onEnrollSucceeded (hk : k.Lawful) (faults : EnrollFaults) {pinValue : String}
    (iv : Bytes) {datadir : Datadir} (hopen : Opens c datadir pinValue) :
    Fallible.Triple (Off datadir) (onEnrollSucceeded k faults pinValue iv)
      (fun _ => SignsIn c k) fun _ => SignsIn c k := by
  refine .tryCatch (R := fun _ => SignsIn c k) ?_ ?_
  · refine .bind (Q := fun _ s => Off datadir s ∧ decryptPin k s = .ok (toByteArray pinValue))
      (.of_forall fun s₀ h₀ => ?_) fun _ => ?_
    · refine (triple_encryptPin hk faults.encryptPin pinValue iv s₀.phone).imp ?_ ?_ ?_
      · rintro _ rfl
        rfl
      · rintro _ s ⟨hphone, hpin⟩
        exact ⟨by rwa [Off, hphone], hpin⟩
      · intro _ s hphone
        refine signsIn_of_off ?_
        rw [hphone]
        exact h₀.1
    refine .bind (Fallible.triple_step (T := SignsIn c k) ?_ fun _ _ _ h => signsIn_of_off h.1.1)
      fun _ => ?_
    · rintro s - ⟨⟨-, rfl⟩, hpin⟩ -
      exact ⟨pinValue, hpin, hopen⟩
    refine .bind (Fallible.triple_orThrow (fun _ _ h => h) fun _ _ _ h => h) fun _ => ?_
    exact triple_makeText fun _ h => h
  · intro e
    cases e with
    | error message => exact Fallible.triple_throw fun _ h => h
    | _ => exact triple_makeText fun _ h => h

/-- **Enrolling leaves a biometric login that works, or none.** -/
theorem triple_enrollBiometrics (hk : k.Lawful) (faults : EnrollFaults) (pinValue : Option String)
    (prompt : PromptEnd) (key : SecretKey) (iv : Bytes) :
    Fallible.Triple (fun s => s.phone.useBiometrics = false)
      (enrollBiometrics c k faults pinValue prompt key iv) (fun _ => SignsIn c k)
      fun _ => SignsIn c k := by
  refine .of_forall fun s₀ h₀ => ?_
  cases pinValue with
  | none => exact Fallible.triple_pure fun s h => signsIn_of_off (h ▸ h₀)
  | some pinValue =>
    refine .bind ((triple_showEnrollPrompt faults pinValue key s₀.phone.datadir).imp ?_
      (fun _ _ h => h) fun _ s h => signsIn_of_off h.1) fun shown => ?_
    · rintro _ rfl
      exact ⟨h₀, rfl⟩
    · split_ifs with h
      · refine .of_forall fun s₁ h₁ => ?_
        refine (triple_onEnrollSucceeded hk faults iv (h₁.2 h.1)).imp ?_ (fun _ _ h => h)
          fun _ _ h => h
        rintro _ rfl
        exact h₁.1
      · exact Fallible.triple_pure fun s h => signsIn_of_off h.1.1

theorem triple_disableBiometrics (faults : DisableFaults) (prompt : PromptEnd) :
    Fallible.Triple (SignsIn c k) (disableBiometrics faults prompt) (fun _ => SignsIn c k)
      fun _ => SignsIn c k := by
  unfold disableBiometrics
  refine .bind (Fallible.triple_orThrow (T := SignsIn c k) (fun _ _ h => h) fun _ _ _ h => h)
    fun _ => ?_
  split_ifs
  · refine .tryCatch (R := fun _ => SignsIn c k) ?_ ?_
    · refine .bind (Fallible.triple_step (T := fun s => s.phone.useBiometrics = false)
        (fun _ _ _ => rfl) fun _ _ _ h => h) fun _ => ?_
      exact Fallible.triple_step (fun _ _ h => signsIn_of_off h) fun _ _ _ h => signsIn_of_off h
    · intro e
      cases e with
      | error message => exact Fallible.triple_throw fun _ h => h
      | _ => exact Fallible.triple_pure fun _ h => h
  · exact Fallible.triple_pure fun _ h => h

/-! ### Changing the PIN -/

section

variable {faults : EncryptFaults} {pinValue confirmPinValue : String} {newPinValue : Option String}
  {salt : RandomBytes PBE_SALT_LENGTH_BITS} {iv : RandomBytes IV_LENGTH_BYTES} {phone : Phone}

theorem triple_display {P T : Phone → Prop} {R : Throwable → Phone → Prop} {shown : Shown}
    (h : ∀ phone, P phone → T { phone with shown := phone.shown ++ [shown] }) :
    Fallible.Triple P (display shown) (fun _ => T) R := Fallible.triple_modify h

/-- The file, the preference and the key are as they were. -/
def Unchanged (before after : Phone) : Prop :=
  after.datadir = before.datadir ∧ after.useBiometrics = before.useBiometrics ∧
    after.keyForPin = before.keyForPin

/-- Biometric login is turned off, or a step before that failed. -/
def OffOrUnchanged (faults : EncryptFaults) (before after : Phone) : Prop :=
  (TurnsOff faults ∧ after.useBiometrics = false) ∨ (¬ TurnsOff faults ∧ Unchanged before after)

theorem triple_afterWrite (before : Phone) :
    Fallible.Triple (Unchanged before) (afterWrite faults confirmPinValue)
      (fun _ => OffOrUnchanged faults before) fun _ => OffOrUnchanged faults before := by
  unfold afterWrite
  refine .bind (Fallible.triple_step
    (T := fun after => faults.setPin = none ∧ Unchanged before after)
    (fun _ hnone h => ⟨hnone, h⟩) ?_) fun _ => ?_
  · intro e after hfault h
    exact .inr ⟨fun hoff => Option.some_ne_none e (hfault.symm.trans hoff.1), h⟩
  refine .bind (Fallible.triple_step
    (T := fun after => TurnsOff faults ∧ after.useBiometrics = false)
    (fun _ hnone h => ⟨⟨h.1, hnone⟩, rfl⟩) ?_) fun _ => ?_
  · intro e after hfault h
    exact .inr ⟨fun hoff => Option.some_ne_none e (hfault.symm.trans hoff.2), h.2⟩
  -- from here on the preference is off
  refine .bind (Fallible.triple_step
    (T := fun after => TurnsOff faults ∧ after.useBiometrics = false)
    (fun _ _ h => h) fun _ _ _ h => .inl h) fun _ => ?_
  refine .bind (triple_display (T := fun after => TurnsOff faults ∧ after.useBiometrics = false)
    fun _ h => h) fun _ => ?_
  exact Fallible.triple_orThrow (fun _ _ h => .inl h) fun _ _ _ h => .inl h

/-- The change behind a file that is written, with the handler of its failures. -/
theorem afterChange_of_written
    (hrewrites : Rewrites c phone faults pinValue newPinValue confirmPinValue)
    {datadir' : Datadir} (hopens : Opens c datadir' confirmPinValue) :
    AfterChange c faults pinValue newPinValue confirmPinValue phone
      ((tryCatch (afterWrite faults confirmPinValue) fun _ =>
        display (.onEncryptSeedFailure .seed_encrypt_general_failure)).exec
          { phone with datadir := datadir' }).2 := by
  have htriple : Fallible.Triple (Unchanged { phone with datadir := datadir' })
      (tryCatch (afterWrite faults confirmPinValue) fun _ =>
        display (.onEncryptSeedFailure .seed_encrypt_general_failure))
      (fun _ => OffOrUnchanged faults { phone with datadir := datadir' })
      fun _ => OffOrUnchanged faults { phone with datadir := datadir' } :=
    (triple_afterWrite _).tryCatch fun _ => triple_display fun _ h => h
  rcases htriple.after (s := { phone with datadir := datadir' }) ⟨rfl, rfl, rfl⟩ with
    ⟨hoff, hbiometrics⟩ | ⟨hfaults, hdatadir, hbiometrics, hkey⟩
  · exact .off hoff hbiometrics
  · exact .outdated hfaults hbiometrics hkey (by rwa [hdatadir]) hrewrites

theorem opens_of_write_error {payload : Bytes} {version : ℤ} {e : Throwable} {datadir' : Datadir}
    {pin : String} (h : (writeSeedFile c faults.file payload confirmPinValue version salt iv).exec
      phone.datadir = (.error e, datadir')) (hopens : Opens c phone.datadir pin) :
    Opens c datadir' pin := by
  obtain ⟨opened, hread⟩ := hopens
  obtain ⟨content, hcontent⟩ := EclairActivity.holdsSeed_of_readSeedAndDecrypt hread
  have hkept := keepsOnError_writeSeedFile (some content) _ hcontent e datadir' h
  refine ⟨opened, ?_⟩
  rw [EclairActivity.readSeedAndDecrypt_of_holdsSeed hkept,
    ← EclairActivity.readSeedAndDecrypt_of_holdsSeed hcontent, hread]

theorem opens_of_passes (hc : c.Lawful) {seed : EncryptedSeed} {payload : Bytes}
    (hread : readSeedAndDecrypt c phone.datadir pinValue = .ok (seed, payload))
    (hpasses : faults.file.Passes c payload confirmPinValue) :
    ∃ datadir', (writeSeedFile c faults.file payload confirmPinValue seed.version salt iv).exec
      phone.datadir = (.ok (), datadir') ∧ Opens c datadir' confirmPinValue := by
  obtain ⟨old, files, hfiles, -⟩ := EclairActivity.holdsSeed_of_readSeedAndDecrypt hread
  obtain ⟨content, hw⟩ := EncryptedSeed.write_encrypt hc
    (EclairActivity.handled_of_readSeedAndDecrypt hread) payload confirmPinValue salt iv
  obtain ⟨datadir', hexec, hhold⟩ := exec_writeSeedFile_of_passes files hc hw
    (EncryptedSeed.read_of_write hw) hpasses
  have hhold' : HoldsSeed (some content) ({ phone with datadir := datadir' } : Phone).datadir :=
    hhold
  rw [hfiles]
  exact ⟨datadir', hexec, _, EclairActivity.opens_new hc hw hhold'⟩

theorem exec_changePassword_error {e : Throwable}
    (hread : readSeedAndDecrypt c phone.datadir pinValue = .error e) :
    ∃ shown, ((EclairActivity.changePassword c faults pinValue newPinValue confirmPinValue salt
      iv).exec phone).2 = { phone with shown := shown } := by
  unfold EclairActivity.changePassword
  rw [Fallible.exec_bind_ok (Fallible.exec_get phone), hread]
  cases e with
  | _ => exact ⟨_, rfl⟩

theorem rewrites_iff {seed : EncryptedSeed} {payload : Bytes}
    (hread : readSeedAndDecrypt c phone.datadir pinValue = .ok (seed, payload)) :
    Rewrites c phone faults pinValue newPinValue confirmPinValue ↔
      Accepted newPinValue confirmPinValue ∧ faults.file.Passes c payload confirmPinValue := by
  constructor
  · rintro ⟨seed', payload', hread', h⟩
    rw [hread] at hread'
    cases hread'
    exact h
  · intro h
    exact ⟨seed, payload, hread, h⟩

/-- **What a change of the PIN leaves of the biometric login.** -/
theorem afterChange_changePassword (hc : c.Lawful) :
    AfterChange c faults pinValue newPinValue confirmPinValue phone
      ((EclairActivity.changePassword c faults pinValue newPinValue confirmPinValue salt iv).exec
        phone).2 := by
  cases hread : readSeedAndDecrypt c phone.datadir pinValue with
  | error e =>
    have hno : ¬ Rewrites c phone faults pinValue newPinValue confirmPinValue := by
      rintro ⟨seed, payload, hread', -⟩
      rw [hread] at hread'
      cases hread'
    obtain ⟨shown, hshown⟩ := exec_changePassword_error hread
    rw [hshown]
    exact .kept hno rfl rfl fun _ h => h
  | ok opened =>
    obtain ⟨seed, payload⟩ := opened
    have hiff : Rewrites c phone faults pinValue newPinValue confirmPinValue ↔
        Accepted newPinValue confirmPinValue ∧ faults.file.Passes c payload confirmPinValue :=
      rewrites_iff hread
    rw [EclairActivity.exec_changePassword hread]
    by_cases hacc : Accepted newPinValue confirmPinValue
    · by_cases hpasses : faults.file.Passes c payload confirmPinValue
      · obtain ⟨datadir', hexec, hopens⟩ := opens_of_passes hc hread hpasses
        rw [EclairActivity.exec_encryptWallet_ok hacc hexec]
        exact afterChange_of_written (hiff.mpr ⟨hacc, hpasses⟩) hopens
      · -- the write fails, and the file is the old one
        obtain ⟨old, files, hfiles, -⟩ := EclairActivity.holdsSeed_of_readSeedAndDecrypt hread
        rcases hexec : (writeSeedFile c faults.file payload confirmPinValue seed.version salt
          iv).exec phone.datadir with ⟨e | u, datadir'⟩
        · rw [EclairActivity.exec_encryptWallet_error hacc hexec]
          exact .kept (fun h => hpasses (hiff.mp h).2) rfl rfl
            fun _ hopens => opens_of_write_error hexec hopens
        · rw [hfiles] at hexec
          exact absurd (passes_of_exec_writeSeedFile hexec) hpasses
    · unfold encryptWallet
      split_ifs with h₁ h₂
      · exact .kept (fun h => hacc (hiff.mp h).1) rfl rfl fun _ h => h
      · exact .kept (fun h => hacc (hiff.mp h).1) rfl rfl fun _ h => h
      · exact absurd ⟨not_not.mp h₁, not_not.mp h₂⟩ hacc

theorem AfterChange.signsIn {after : Phone}
    (h : AfterChange c faults pinValue newPinValue confirmPinValue s.phone after)
    (hs : SignsIn c k s)
    (hcareful : s.phone.useBiometrics = true →
      Rewrites c s.phone faults pinValue newPinValue confirmPinValue →
        decryptPin k s = .ok (toByteArray confirmPinValue) ∨ TurnsOff faults) :
    SignsIn c k { s with phone := after } := by
  intro hon
  cases h with
  | kept _ hbiometrics hkey hopens =>
    obtain ⟨pin, hpin, hopen⟩ := hs (hbiometrics.symm.trans hon)
    exact ⟨pin, (decryptPin_congr hkey).trans hpin, hopens pin hopen⟩
  | off _ hoff => exact absurd hon (by simp [hoff])
  | outdated hfaults hbiometrics hkey hopens hrewrites =>
    rcases hcareful (hbiometrics.symm.trans hon) hrewrites with hpin | hoff
    · exact ⟨confirmPinValue, (decryptPin_congr hkey).trans hpin, hopens⟩
    · exact absurd hoff hfaults

theorem exec_changePasswordCancelled (phone : Phone) (pinValue : String) :
    ∃ shown, ((changePasswordCancelled c pinValue).exec phone).2 =
      { phone with shown := shown } := by
  unfold changePasswordCancelled
  rw [Fallible.exec_bind_ok (Fallible.exec_get phone)]
  cases readSeedAndDecrypt c phone.datadir pinValue with
  | ok opened => exact ⟨_, rfl⟩
  | error e =>
    cases e with
    | _ => exact ⟨_, rfl⟩

theorem signsIn_changePassword (hc : c.Lawful) {pinValue : Option String}
    {newPin : Option (Option String × String)} (h : SignsIn c k s)
    (hcareful : Careful c k s (.changePassword faults pinValue newPin salt iv)) :
    SignsIn c k { s with
      phone := ((changePassword c faults pinValue newPin salt iv).exec s.phone).2 } := by
  cases pinValue with
  | none => exact h
  | some pinValue =>
    cases newPin with
    | none =>
      obtain ⟨shown, hshown⟩ := exec_changePasswordCancelled (c := c) s.phone pinValue
      change SignsIn c k { s with phone := ((changePasswordCancelled c pinValue).exec s.phone).2 }
      rw [hshown]
      intro hon
      exact h hon
    | some newPin => exact (afterChange_changePassword hc).signsIn h hcareful

/-- **Each operation keeps a biometric login that works.** -/
theorem signsIn_step (hc : c.Lawful) (hk : k.Lawful) {s' : SignIn SecretKey}
    {op : Operation SecretKey} (h : SignsIn c k s) (hcareful : Careful c k s op)
    (hstep : step c k s op = some s') : SignsIn c k s' := by
  cases op with
  | enrollBiometrics faults pinValue prompt key iv =>
    simp only [step] at hstep
    split_ifs at hstep with hon
    cases hstep
    exact (triple_enrollBiometrics hk faults pinValue prompt key iv).after (by simpa using hon)
  | disableBiometrics faults prompt =>
    simp only [step] at hstep
    split_ifs at hstep
    cases hstep
    exact (triple_disableBiometrics faults prompt).after h
  | changePassword faults pinValue newPin salt iv =>
    cases hstep
    exact signsIn_changePassword hc h hcareful

/-- **Biometric login works in every run whose changes of the PIN are careful.** -/
theorem signsIn_of_reach (hc : c.Lawful) (hk : k.Lawful) (s : SignIn SecretKey)
    (h : Reach (step c k) (Careful c k) (fun s => s.phone.useBiometrics = false) s) :
    SignsIn c k s :=
  Reach.invariant (fun _ hoff => signsIn_of_off hoff)
    (fun _ _ _ hs hcareful hstep => signsIn_step hc hk hs hcareful hstep) s h

end

end

/-! ### A change of the PIN with a fault in the preferences -/

namespace Enrolled

open Known EclairActivity.PinChange

def key : Bytes := (List.range' 32 16).map UInt8.ofNat

/-- The two PINs, encrypted with the key. -/
def pinAnswers : List (Bytes × Bytes) :=
  [(toByteArray pin, [114, 176, 100, 141, 193, 57, 77, 201, 168, 187, 106, 17, 160, 80, 92, 46]),
   (toByteArray newPin,
     [54, 195, 64, 136, 113, 206, 224, 238, 76, 57, 39, 51, 50, 100, 153, 61])]

def pinCipher : PinCipher Bytes where
  encrypt sk ivBytes data := if (sk, ivBytes) = (key, iv.1) then swaps pinAnswers data else data
  decrypt sk ivBytes data :=
    .ok (if (sk, ivBytes) = (key, iv.1) then (swaps pinAnswers).symm data else data)

theorem pinCipher_lawful : pinCipher.Lawful := by
  intro sk ivBytes data
  simp only [pinCipher]
  split_ifs <;> simp

def start : SignIn Bytes where
  phone := { EclairActivity.PinChange.phone with useBiometrics := false, keyForPin := false }

def enroll (pin : String) : Operation Bytes :=
  .enrollBiometrics {} (some pin) .onAuthenticationSucceeded key iv.1

def change (faults : EncryptFaults) : Operation Bytes :=
  .changePassword faults (some pin) (some (some newPin, newPin)) newSalt iv

/-- The preference is not set. -/
def faults : EncryptFaults := { useBiometrics := some (.error "java.lang.OutOfMemoryError") }

end Enrolled

open Enrolled

/-- The login is enrolled again after the PIN was changed. -/
theorem signsIn_of_reach_enroll : ∃ s,
    run (step EclairActivity.PinChange.pinCrypto pinCipher) start
      [enroll Known.pin, change {}, enroll EclairActivity.PinChange.newPin] = some s ∧
    s.phone.useBiometrics = true ∧ SignsIn EclairActivity.PinChange.pinCrypto pinCipher s := by
  have hon : (run (step EclairActivity.PinChange.pinCrypto pinCipher) start
      [enroll Known.pin, change {}, enroll EclairActivity.PinChange.newPin]).map
        (·.phone.useBiometrics) = some true := by decide +kernel
  obtain ⟨s, hrun, hs⟩ := Option.map_eq_some_iff.mp hon
  have hmeets : Meets (step EclairActivity.PinChange.pinCrypto pinCipher)
      (Careful EclairActivity.PinChange.pinCrypto pinCipher) start
        [enroll Known.pin, change {}, enroll EclairActivity.PinChange.newPin] :=
    ⟨trivial, fun _ _ => ⟨fun _ _ => .inr ⟨rfl, rfl⟩, fun _ _ => ⟨trivial, fun _ _ => trivial⟩⟩⟩
  exact ⟨s, hrun, hs, signsIn_of_reach EclairActivity.PinChange.pinCrypto_lawful pinCipher_lawful s
    (reach_of_meets rfl hmeets hrun)⟩

/-- **Biometric login is on and releases the old PIN, which no longer opens the seed file.** -/
theorem not_signsIn_of_reach :
    (∃ s, run (step EclairActivity.PinChange.pinCrypto pinCipher) start
      [enroll Known.pin, change faults] = some s ∧ s.phone.useBiometrics = true ∧
        decryptPin pinCipher s = .ok (toByteArray Known.pin) ∧
        readSeedAndDecrypt EclairActivity.PinChange.pinCrypto s.phone.datadir Known.pin =
          .error (.generalSecurityException "MAC stored in civ does not match computed MAC.")) ∧
    ¬ ∀ s, Reach (step EclairActivity.PinChange.pinCrypto pinCipher) anyStep
        (fun s => s.phone.useBiometrics = false) s →
      SignsIn EclairActivity.PinChange.pinCrypto pinCipher s := by
  have hafter : (run (step EclairActivity.PinChange.pinCrypto pinCipher) start
      [enroll Known.pin, change faults]).map (fun s => (s.phone.useBiometrics,
        decryptPin pinCipher s,
        readSeedAndDecrypt EclairActivity.PinChange.pinCrypto s.phone.datadir Known.pin)) =
      some (true, .ok (toByteArray Known.pin),
        .error (.generalSecurityException "MAC stored in civ does not match computed MAC.")) := by
    decide +kernel
  obtain ⟨s, hrun, hs⟩ := Option.map_eq_some_iff.mp hafter
  obtain ⟨hon, hs⟩ := Prod.mk.inj hs
  obtain ⟨hpin, hread⟩ := Prod.mk.inj hs
  refine ⟨⟨s, hrun, hon, hpin, hread⟩, fun h => ?_⟩
  obtain ⟨pin, hreleased, opened, hopens⟩ := h s (reach_of_run rfl hrun) hon
  rw [hpin] at hreleased
  have hsame : Known.pin = pin :=
    Function.LeftInverse.injective Known.utf8_toByteArray (Except.ok.inj hreleased)
  rw [← hsame, hread] at hopens
  cases hopens

end SecuritySettingsActivity

end EclairMobile
