import EclairMobile.Utils.FileFormats

/-!
# EclairActivity and the change of the PIN

`encryptWallet` writes the seed file under a new PIN, and then sets the PIN of the app, turns the
biometric login off and deletes the key that encrypts the PIN.  One handler behind all steps reports
a failure, also when the file is already replaced.
-/

namespace EclairMobile

open Lib AesCbcWithIntegrity WalletUtils

/-- The texts that are shown, by their resource. -/
inductive Message
  | pindialog_error
  | pindialog_error_donotmatch
  | seed_encrypt_general_failure
  | security_pin_failure
  | seed_read_general_failure
  deriving DecidableEq, Repr

/-- What the user gets to see. -/
inductive Shown
  | onEncryptSeedFailure (message : Message)
  | onEncryptSeedSuccess
  | toast (message : Message)
  deriving DecidableEq, Repr

/-- The data directory, the PIN in memory, the preference, whether the keystore has a key for the
PIN, and what was shown. -/
structure Phone where
  datadir : Datadir
  pin : Option String
  useBiometrics : Bool
  keyForPin : Bool
  shown : List Shown := []

namespace EclairActivity

def PIN_LENGTH : ℕ := 6

/-- What goes wrong in the steps of `encryptWallet`. -/
structure EncryptFaults where
  file : WriteFaults := {}
  setPin : Option Throwable := none
  useBiometrics : Option Throwable := none
  deleteKeyForPin : Option Throwable := none
  onEncryptSeedSuccess : Option Throwable := none

def display (s : Shown) : Fallible Phone Throwable Unit :=
  modify fun phone => { phone with shown := phone.shown ++ [s] }

@[simp] theorem exec_display (s : Shown) (phone : Phone) : (display s).exec phone =
    (.ok (), { phone with shown := phone.shown ++ [s] }) := rfl

/-- What `encryptWallet` does once the file is written. -/
def afterWrite (faults : EncryptFaults) (confirmPinValue : String) :
    Fallible Phone Throwable Unit := do
  Fallible.step faults.setPin fun phone => { phone with pin := some confirmPinValue }
  Fallible.step faults.useBiometrics fun phone => { phone with useBiometrics := false }
  Fallible.step faults.deleteKeyForPin fun phone => { phone with keyForPin := false }
  display .onEncryptSeedSuccess
  Fallible.orThrow faults.onEncryptSeedSuccess

section

variable (c : Crypto)

/-- The second `onPinConfirm`: the new PIN was entered and confirmed. -/
def encryptWallet (faults : EncryptFaults) (payload : Bytes) (version : ℤ)
    (newPinValue : Option String) (confirmPinValue : String)
    (salt : RandomBytes PBE_SALT_LENGTH_BITS) (iv : RandomBytes IV_LENGTH_BYTES) :
    Fallible Phone Throwable Unit :=
  if newPinValue.map String.length ≠ some PIN_LENGTH then
    display (.onEncryptSeedFailure .pindialog_error)
  else if newPinValue ≠ some confirmPinValue then
    display (.onEncryptSeedFailure .pindialog_error_donotmatch)
  else
    tryCatch (do
      Fallible.zoom Phone.datadir (fun datadir phone => { phone with datadir := datadir })
        (writeSeedFile c faults.file payload confirmPinValue version salt iv)
      afterWrite faults confirmPinValue)
      fun _ => display (.onEncryptSeedFailure .seed_encrypt_general_failure)

/-- `SecuritySettingsActivity.changePassword`, with the PIN of the first dialog and the two entries
of the new one. -/
def changePassword (faults : EncryptFaults) (pinValue : String) (newPinValue : Option String)
    (confirmPinValue : String) (salt : RandomBytes PBE_SALT_LENGTH_BITS)
    (iv : RandomBytes IV_LENGTH_BYTES) : Fallible Phone Throwable Unit := do
  let phone ← get
  match readSeedAndDecrypt c phone.datadir pinValue with
  | .ok (seed, decryptedPayload) =>
    encryptWallet c faults decryptedPayload seed.version newPinValue confirmPinValue salt iv
  | .error (.generalSecurityException _) => display (.toast .security_pin_failure)
  | .error (.error message) => throw (.error message)
  | .error _ => display (.toast .seed_read_general_failure)

/-! ### Honest reports -/

/-- **An honest report.**  A failure means that the old PIN still opens the file with the payload,
and is still the PIN of the app.  A success means that the new PIN opens it with the same payload
and version, is the PIN of the app, and that the biometric login is off. -/
structure Honest (oldPin newPin : String) (version : ℤ) (payload : Bytes) (before after : Phone) :
    Prop where
  failure : ∀ message, .onEncryptSeedFailure message ∈ after.shown →
    (∃ seed, readSeedAndDecrypt c after.datadir oldPin = .ok (seed, payload)) ∧
      after.pin = before.pin
  success : .onEncryptSeedSuccess ∈ after.shown →
    (∃ seed, readSeedAndDecrypt c after.datadir newPin = .ok (seed, payload) ∧
      seed.version = version) ∧ after.pin = some newPin ∧ after.useBiometrics = false

/-- None of the steps behind the file fails. -/
def EncryptFaults.NoneAfterWrite (faults : EncryptFaults) : Prop :=
  faults.setPin = none ∧ faults.useBiometrics = none ∧ faults.deleteKeyForPin = none ∧
    faults.onEncryptSeedSuccess = none

/-- The dialogs accept the new PIN. -/
def Accepted (newPinValue : Option String) (confirmPinValue : String) : Prop :=
  newPinValue.map String.length = some PIN_LENGTH ∧ newPinValue = some confirmPinValue

variable {c} {faults : EncryptFaults} {phone : Phone}

theorem readSeedAndDecrypt_of_holdsSeed {content : Bytes} {datadir : Datadir}
    (h : HoldsSeed (some content) datadir) (password : String) :
    readSeedAndDecrypt c datadir password = (do
      let seed ← EncryptedSeed.read content
      let blob ← seed.decrypt c password
      .ok (seed, blob)) := by
  obtain ⟨files, rfl, hf⟩ := h
  simp [readSeedAndDecrypt, readSeedFile, hf, bind, Except.bind]

theorem holdsSeed_of_readSeedAndDecrypt {datadir : Datadir} {password : String}
    {r : EncryptedSeed × Bytes} (h : readSeedAndDecrypt c datadir password = .ok r) :
    ∃ content, HoldsSeed (some content) datadir := by
  obtain ⟨seed, hread, -⟩ := bind_eq_ok_iff.mp h
  cases datadir with
  | none => cases hread
  | some files =>
    cases hf : files SEED_NAME with
    | some content => exact ⟨content, files, rfl, hf⟩
    | none => simp [readSeedFile, hf] at hread

theorem exec_afterWrite (h : faults.NoneAfterWrite) (confirmPinValue : String) (phone : Phone) :
    (afterWrite faults confirmPinValue).exec phone =
      (.ok (), { phone with
        pin := some confirmPinValue
        useBiometrics := false
        keyForPin := false
        shown := phone.shown ++ [.onEncryptSeedSuccess] }) := by
  obtain ⟨h₁, h₂, h₃, h₄⟩ := h
  unfold afterWrite
  rw [h₁, h₂, h₃, h₄]
  rfl

/-- With a fault behind the file the program throws.  The file stays, the PIN is the old or the new
one, and a success that was shown is true. -/
theorem exec_afterWrite_fault (h : ¬faults.NoneAfterWrite) (confirmPinValue : String)
    (phone : Phone) : ∃ e phone', (afterWrite faults confirmPinValue).exec phone =
      (.error e, phone') ∧ phone'.datadir = phone.datadir ∧
        (phone'.pin = phone.pin ∨ phone'.pin = some confirmPinValue) ∧
          (phone'.shown = phone.shown ∨
            phone'.pin = some confirmPinValue ∧ phone'.useBiometrics = false) := by
  unfold afterWrite
  cases h₁ : faults.setPin with
  | some e => exact ⟨e, _, rfl, rfl, .inl rfl, .inl rfl⟩
  | none =>
    cases h₂ : faults.useBiometrics with
    | some e => exact ⟨e, _, rfl, rfl, .inr rfl, .inl rfl⟩
    | none =>
      cases h₃ : faults.deleteKeyForPin with
      | some e => exact ⟨e, _, rfl, rfl, .inr rfl, .inl rfl⟩
      | none =>
        cases h₄ : faults.onEncryptSeedSuccess with
        | some e => exact ⟨e, _, rfl, rfl, .inr rfl, .inr ⟨rfl, rfl⟩⟩
        | none => exact absurd ⟨h₁, h₂, h₃, h₄⟩ h

theorem exec_encryptWallet_error {payload : Bytes} {version : ℤ} {newPin : Option String}
    {confirmPin : String} {salt : RandomBytes PBE_SALT_LENGTH_BITS}
    {iv : RandomBytes IV_LENGTH_BYTES} (hacc : Accepted newPin confirmPin) {e : Throwable}
    {datadir' : Datadir}
    (h : (writeSeedFile c faults.file payload confirmPin version salt iv).exec phone.datadir =
      (.error e, datadir')) :
    (encryptWallet c faults payload version newPin confirmPin salt iv).exec phone =
      (.ok (), { phone with
        datadir := datadir'
        shown := phone.shown ++ [.onEncryptSeedFailure .seed_encrypt_general_failure] }) := by
  have hwrite : (Fallible.zoom Phone.datadir
      (fun datadir phone => { phone with datadir := datadir })
      (writeSeedFile c faults.file payload confirmPin version salt iv)).exec phone =
        (.error e, { phone with datadir := datadir' }) := by rw [Fallible.exec_zoom, h]
  unfold encryptWallet
  rw [if_neg (not_not.mpr hacc.1), if_neg (not_not.mpr hacc.2), Fallible.exec_tryCatch,
    Fallible.exec_bind_error hwrite]
  rfl

theorem exec_encryptWallet_ok {payload : Bytes} {version : ℤ} {newPin : Option String}
    {confirmPin : String} {salt : RandomBytes PBE_SALT_LENGTH_BITS}
    {iv : RandomBytes IV_LENGTH_BYTES} (hacc : Accepted newPin confirmPin) {datadir' : Datadir}
    (h : (writeSeedFile c faults.file payload confirmPin version salt iv).exec phone.datadir =
      (.ok (), datadir')) :
    (encryptWallet c faults payload version newPin confirmPin salt iv).exec phone =
      (tryCatch (afterWrite faults confirmPin) fun _ =>
        display (.onEncryptSeedFailure .seed_encrypt_general_failure)).exec
          { phone with datadir := datadir' } := by
  have hwrite : (Fallible.zoom Phone.datadir
      (fun datadir phone => { phone with datadir := datadir })
      (writeSeedFile c faults.file payload confirmPin version salt iv)).exec phone =
        (.ok (), { phone with datadir := datadir' }) := by rw [Fallible.exec_zoom, h]
  unfold encryptWallet
  rw [if_neg (not_not.mpr hacc.1), if_neg (not_not.mpr hacc.2), Fallible.exec_tryCatch,
    Fallible.exec_tryCatch, Fallible.exec_bind_ok hwrite]

/-! ### Which reports are honest -/

section

variable {oldPin confirmPin : String} {newPin : Option String} {seed : EncryptedSeed}
  {payload content : Bytes} {salt : RandomBytes PBE_SALT_LENGTH_BITS}
  {iv : RandomBytes IV_LENGTH_BYTES} {after : Phone}

theorem honest_of_unchanged
    (hopen : readSeedAndDecrypt c phone.datadir oldPin = .ok (seed, payload))
    (hhold : ∀ content, HoldsSeed (some content) phone.datadir →
      HoldsSeed (some content) after.datadir)
    (hpin : after.pin = phone.pin) (hshown : .onEncryptSeedSuccess ∉ after.shown) (newPin : String)
    (version : ℤ) : Honest c oldPin newPin version payload phone after where
  failure _ _ := by
    obtain ⟨content, hcontent⟩ := holdsSeed_of_readSeedAndDecrypt hopen
    refine ⟨⟨seed, ?_⟩, hpin⟩
    rw [readSeedAndDecrypt_of_holdsSeed (hhold content hcontent),
      ← readSeedAndDecrypt_of_holdsSeed hcontent, hopen]
  success h := absurd h hshown

theorem opens_new (hc : c.Lawful)
    (hw : (EncryptedSeed.encrypt c payload confirmPin seed.version salt iv).write = .ok content)
    (hhold : HoldsSeed (some content) after.datadir) :
    readSeedAndDecrypt c after.datadir confirmPin =
      .ok (EncryptedSeed.encrypt c payload confirmPin seed.version salt iv, payload) := by
  rw [readSeedAndDecrypt_of_holdsSeed hhold, EncryptedSeed.read_of_write hw]
  show (EncryptedSeed.decrypt c _ confirmPin >>= fun blob => _) = _
  rw [EncryptedSeed.decrypt_encrypt hc]
  rfl

/-- The new file opens with the old PIN only if this is the new one. -/
theorem eq_of_opens_old {version : ℤ} {opened : EncryptedSeed × Bytes}
    (hw : (EncryptedSeed.encrypt c payload confirmPin version salt iv).write = .ok content)
    (hideal : Unforged c (fun pin => generateKeyFromPassword c pin salt) confirmPin
      (EncryptedSeed.encrypt c payload confirmPin version salt iv).civ oldPin
      (EncryptedSeed.encrypt c payload confirmPin version salt iv).civ)
    (hhold : HoldsSeed (some content) after.datadir)
    (h : readSeedAndDecrypt c after.datadir oldPin = .ok opened) : oldPin = confirmPin := by
  rw [readSeedAndDecrypt_of_holdsSeed hhold, EncryptedSeed.read_of_write hw] at h
  obtain ⟨seed, hseed, h⟩ := bind_eq_ok_iff.mp h
  obtain ⟨blob, hd, -⟩ := bind_eq_ok_iff.mp h
  obtain rfl := Except.ok.inj hseed
  exact (hideal (authentic_of_decrypt hd)).1

theorem exec_changePassword
    (hopen : readSeedAndDecrypt c phone.datadir oldPin = .ok (seed, payload)) :
    (changePassword c faults oldPin newPin confirmPin salt iv).exec phone =
      (encryptWallet c faults payload seed.version newPin confirmPin salt iv).exec phone := by
  unfold changePassword
  rw [Fallible.exec_bind_ok (Fallible.exec_get phone), hopen]

theorem handled_of_readSeedAndDecrypt {datadir : Datadir} {password : String}
    (h : readSeedAndDecrypt c datadir password = .ok (seed, payload)) :
    EncryptedSeed.Handled seed.version := by
  obtain ⟨content, hcontent⟩ := holdsSeed_of_readSeedAndDecrypt h
  rw [readSeedAndDecrypt_of_holdsSeed hcontent] at h
  obtain ⟨seed', hr, h⟩ := bind_eq_ok_iff.mp h
  obtain ⟨blob, -, h⟩ := bind_eq_ok_iff.mp h
  obtain ⟨rfl, rfl⟩ := Prod.mk.inj (Except.ok.inj h)
  exact (EncryptedSeed.of_read_ok hr).1

theorem honest_of_not_accepted (hacc : ¬Accepted newPin confirmPin)
    (hopen : readSeedAndDecrypt c phone.datadir oldPin = .ok (seed, payload))
    (hshown : phone.shown = []) :
    Honest c oldPin confirmPin seed.version payload phone
      ((encryptWallet c faults payload seed.version newPin confirmPin salt iv).exec phone).2 := by
  unfold encryptWallet
  split_ifs with h₁ h₂
  · refine honest_of_unchanged hopen ?_ ?_ ?_ _ _
    · exact fun _ h => h
    · rfl
    · simp [hshown]
  · refine honest_of_unchanged hopen ?_ ?_ ?_ _ _
    · exact fun _ h => h
    · rfl
    · simp [hshown]
  · exact absurd ⟨not_not.mp h₁, not_not.mp h₂⟩ hacc

theorem honest_of_not_passes (hacc : Accepted newPin confirmPin)
    (hpass : ¬faults.file.Passes c payload confirmPin)
    (hopen : readSeedAndDecrypt c phone.datadir oldPin = .ok (seed, payload))
    (hshown : phone.shown = []) :
    Honest c oldPin confirmPin seed.version payload phone
      ((encryptWallet c faults payload seed.version newPin confirmPin salt iv).exec phone).2 := by
  obtain ⟨old, files, hfiles, hold⟩ := holdsSeed_of_readSeedAndDecrypt hopen
  rcases hexec : (writeSeedFile c faults.file payload confirmPin seed.version salt iv).exec
    phone.datadir with ⟨e | u, datadir'⟩
  · rw [exec_encryptWallet_error hacc hexec]
    refine honest_of_unchanged hopen ?_ ?_ ?_ _ _
    · intro held hheld
      exact keepsOnError_writeSeedFile (some held) _ hheld e datadir' hexec
    · rfl
    · simp [hshown]
  · rw [hfiles] at hexec
    exact absurd (passes_of_exec_writeSeedFile hexec) hpass

theorem honest_of_noneAfterWrite (oldPin : String) (hc : c.Lawful)
    (hw : (EncryptedSeed.encrypt c payload confirmPin seed.version salt iv).write = .ok content)
    {datadir' : Datadir} (hhold : HoldsSeed (some content) datadir')
    (hnone : faults.NoneAfterWrite) (hshown : phone.shown = []) :
    Honest c oldPin confirmPin seed.version payload phone
      ((tryCatch (afterWrite faults confirmPin) fun _ =>
        display (.onEncryptSeedFailure .seed_encrypt_general_failure)).exec
          { phone with datadir := datadir' }).2 := by
  rw [Fallible.exec_tryCatch, exec_afterWrite hnone]
  constructor
  · intro message hm
    simp [hshown] at hm
  · intro _
    exact ⟨⟨_, opens_new hc hw hhold, rfl⟩, rfl, rfl⟩

/-- With a fault a failure is shown, although the file is the new one: this is true only if the PIN
stays the same. -/
theorem honest_fault_iff (hc : c.Lawful)
    (hw : (EncryptedSeed.encrypt c payload confirmPin seed.version salt iv).write = .ok content)
    {datadir' : Datadir} (hhold : HoldsSeed (some content) datadir')
    (hfaults : ¬faults.NoneAfterWrite) (hpin : phone.pin = some oldPin) (hshown : phone.shown = [])
    (hideal : Unforged c (fun pin => generateKeyFromPassword c pin salt) confirmPin
      (EncryptedSeed.encrypt c payload confirmPin seed.version salt iv).civ oldPin
      (EncryptedSeed.encrypt c payload confirmPin seed.version salt iv).civ) :
    Honest c oldPin confirmPin seed.version payload phone
        ((tryCatch (afterWrite faults confirmPin) fun _ =>
          display (.onEncryptSeedFailure .seed_encrypt_general_failure)).exec
            { phone with datadir := datadir' }).2 ↔
      confirmPin = oldPin := by
  obtain ⟨e, phone', hfault, hdir, hpin', hsuccess⟩ :=
    exec_afterWrite_fault hfaults confirmPin { phone with datadir := datadir' }
  have hhold' : HoldsSeed (some content) phone'.datadir := by
    rw [hdir]
    exact hhold
  rw [Fallible.exec_tryCatch, hfault]
  constructor
  · intro h
    obtain ⟨⟨seed', hopen'⟩, -⟩ := h.failure .seed_encrypt_general_failure (by simp)
    exact (eq_of_opens_old hw hideal hhold' hopen').symm
  · rintro rfl
    constructor
    · intro message _
      have hsame : phone'.pin = phone.pin := by
        rcases hpin' with hp | hp
        · exact hp
        · exact hp.trans hpin.symm
      exact ⟨⟨_, opens_new hc hw hhold'⟩, hsame⟩
    · intro hs
      have hmem : Shown.onEncryptSeedSuccess ∈ phone'.shown := by simpa using hs
      rcases hsuccess with hnot | ⟨hp, hb⟩
      · rw [hnot, hshown] at hmem
        cases hmem
      · exact ⟨⟨_, opens_new hc hw hhold', rfl⟩, hp, hb⟩

/-- **When the report of a PIN change is honest**: exactly if the new PIN is not accepted, or the
file is not written, or no later step fails, or the PIN stays the same. -/
theorem changePassword_honest_iff (hc : c.Lawful) (phone : Phone) (oldPin confirmPin : String)
    (newPin : Option String) (seed : EncryptedSeed) (payload : Bytes)
    (salt : RandomBytes PBE_SALT_LENGTH_BITS) (iv : RandomBytes IV_LENGTH_BYTES)
    (faults : EncryptFaults)
    (hopen : readSeedAndDecrypt c phone.datadir oldPin = .ok (seed, payload))
    (hpin : phone.pin = some oldPin) (hshown : phone.shown = [])
    (hideal : Unforged c (fun pin => generateKeyFromPassword c pin salt) confirmPin
      (EncryptedSeed.encrypt c payload confirmPin seed.version salt iv).civ oldPin
      (EncryptedSeed.encrypt c payload confirmPin seed.version salt iv).civ) :
    Honest c oldPin confirmPin seed.version payload phone
        ((changePassword c faults oldPin newPin confirmPin salt iv).exec phone).2 ↔
      (¬Accepted newPin confirmPin ∨ ¬faults.file.Passes c payload confirmPin ∨
        faults.NoneAfterWrite ∨ confirmPin = oldPin) := by
  rw [exec_changePassword hopen]
  by_cases hacc : Accepted newPin confirmPin
  · by_cases hpass : faults.file.Passes c payload confirmPin
    · -- the file is written: what counts is what happens behind it
      obtain ⟨content, hw⟩ := EncryptedSeed.write_encrypt hc (handled_of_readSeedAndDecrypt hopen)
        payload confirmPin salt iv
      obtain ⟨old, files, hfiles, hold⟩ := holdsSeed_of_readSeedAndDecrypt hopen
      obtain ⟨datadir', hexec, hhold⟩ := exec_writeSeedFile_of_passes files hc hw
        (EncryptedSeed.read_of_write hw) hpass
      rw [← hfiles] at hexec
      rw [exec_encryptWallet_ok hacc hexec]
      by_cases hnone : faults.NoneAfterWrite
      · have hhonest := honest_of_noneAfterWrite oldPin hc hw hhold hnone hshown
        exact iff_of_true hhonest (.inr (.inr (.inl hnone)))
      · rw [honest_fault_iff hc hw hhold hnone hpin hshown hideal]
        simp [hacc, hpass, hnone]
    · exact iff_of_true (honest_of_not_passes hacc hpass hopen hshown) (.inr (.inl hpass))
  · exact iff_of_true (honest_of_not_accepted hacc hopen hshown) (.inl hacc)

end

end

/-! ### A PIN change with a fault in the keystore -/

namespace PinChange

open Known

def newSalt : RandomBytes PBE_SALT_LENGTH_BITS := ⟨List.replicate 128 9, List.length_replicate⟩

def newPin : String := "654321"

/-- The keys of the new PIN under the new salt. -/
def newKeys : RandomBytes 48 :=
  ⟨[7, 130, 30, 152, 105, 162, 24, 136, 59, 158, 104, 94, 125, 144, 57, 14, 44, 253, 187, 137,
   113, 37, 218, 8, 218, 123, 95, 242, 132, 152, 89, 40, 136, 52, 57, 86, 108, 170, 31, 124, 63,
   7, 170, 131, 91, 84, 67, 200], by decide⟩

/-- The keys of the old PIN under the new salt. -/
def oldKeys : RandomBytes 48 :=
  ⟨[213, 203, 162, 100, 149, 241, 248, 97, 197, 228, 191, 192, 124, 34, 251, 231, 132, 146, 168,
   95, 63, 57, 82, 246, 227, 157, 90, 107, 14, 149, 190, 57, 114, 128, 105, 179, 94, 154, 150,
   12, 89, 168, 249, 220, 64, 42, 154, 133], by decide⟩

/-- `blob`, encrypted with the new keys. -/
def newCipher : Bytes :=
  [73, 154, 56, 142, 46, 4, 110, 34, 135, 244, 20, 90, 26, 217, 104, 213, 7, 111, 91, 168, 130,
   119, 176, 152, 68, 3, 108, 69, 150, 177, 212, 99, 186, 102, 184, 241, 189, 102, 168, 54, 230,
   161, 49, 102, 215, 102, 51, 82, 190, 193, 102, 173, 236, 120, 230, 22, 117, 115, 250, 154,
   70, 114, 163, 91, 56, 151, 206, 158, 79, 42, 47, 71, 2, 29, 136, 197, 247, 163, 190, 97, 153,
   254, 20, 116, 231, 70, 197, 39, 138, 233, 152, 95, 127, 2, 24, 38, 170, 58, 87, 144, 103, 54,
   182, 107, 82, 78, 40, 196, 163, 131, 106, 168, 105, 119, 27, 54, 49, 132, 163, 204, 123, 210,
   72, 118, 100, 98, 0, 3, 190, 77, 233, 244, 61, 181, 156, 178, 149, 26, 122, 237, 26, 83, 202,
   59, 139, 177, 70, 128, 255, 199, 255, 44, 200, 35, 44, 124, 132, 46, 86, 162, 47, 22, 166,
   30, 147, 18, 56, 71, 57, 118, 229, 45, 96, 45, 46, 164]

/-- Its HMAC. -/
def newMac : RandomBytes 32 :=
  ⟨[150, 16, 198, 22, 201, 185, 168, 228, 78, 232, 207, 248, 228, 201, 40, 219, 242, 221, 240,
   155, 149, 14, 79, 109, 58, 194, 25, 196, 193, 30, 56, 55], by decide⟩

/-- Its HMAC under the old PIN. -/
def oldMac : RandomBytes 32 :=
  ⟨[107, 19, 230, 123, 235, 153, 249, 106, 53, 70, 170, 48, 0, 197, 144, 61, 135, 13, 191, 66,
   231, 6, 74, 175, 169, 82, 244, 111, 100, 194, 166, 116], by decide⟩

def pinAnswers : KnownAnswers where
  aes := ((newKeys.1.take 16, iv), blob, newCipher) :: answers.aes
  hmac :=
    ((newKeys.1.drop 16, iv ++ newCipher), newMac) ::
      ((oldKeys.1.drop 16, iv ++ newCipher), oldMac) :: answers.hmac
  pbkdf2 := ((newPin, newSalt), newKeys) :: ((pin, newSalt), oldKeys) :: answers.pbkdf2
  zlib := answers.zlib

def pinCrypto : Crypto := Crypto.ofKnown pinAnswers

theorem pinCrypto_lawful : pinCrypto.Lawful := Crypto.ofKnown_lawful pinAnswers

def phone : Phone :=
  { datadir := datadirWith seedFile, pin := some pin, useBiometrics := true, keyForPin := true }

def oldSeed : EncryptedSeed := ⟨⟨2, seedCipher, iv, seedMac⟩, salt⟩

/-- `deleteEntry` throws. -/
def faults : EncryptFaults :=
  { deleteKeyForPin := some (.generalSecurityException "failed to delete entry") }

theorem opens : readSeedAndDecrypt pinCrypto phone.datadir pin = .ok (oldSeed, blob) := by
  decide +kernel

theorem unforged : Unforged pinCrypto (fun p => generateKeyFromPassword pinCrypto p newSalt) newPin
    (EncryptedSeed.encrypt pinCrypto blob newPin oldSeed.version newSalt iv).civ pin
    (EncryptedSeed.encrypt pinCrypto blob newPin oldSeed.version newSalt iv).civ := by
  intro h
  exact absurd h (by decide +kernel)

/-- The phone behind the change. -/
def after : Phone :=
  ((changePassword pinCrypto faults pin (some newPin) newPin newSalt iv).exec phone).2

end PinChange

theorem changePassword_honest_iff_fault :
    Honest PinChange.pinCrypto Known.pin PinChange.newPin PinChange.oldSeed.version Known.blob
        PinChange.phone ((changePassword PinChange.pinCrypto PinChange.faults Known.pin
          (some PinChange.newPin) PinChange.newPin PinChange.newSalt Known.iv).exec
            PinChange.phone).2 ↔
      (¬Accepted (some PinChange.newPin) PinChange.newPin ∨
        ¬PinChange.faults.file.Passes PinChange.pinCrypto Known.blob PinChange.newPin ∨
          PinChange.faults.NoneAfterWrite ∨ PinChange.newPin = Known.pin) :=
  changePassword_honest_iff PinChange.pinCrypto_lawful PinChange.phone Known.pin PinChange.newPin
    (some PinChange.newPin) PinChange.oldSeed Known.blob PinChange.newSalt Known.iv PinChange.faults
    PinChange.opens rfl rfl PinChange.unforged

/-- **A failure is reported, and the old PIN is lost**: the file opens with the new PIN only, which
is also the PIN of the app. -/
theorem not_changePassword_honest :
    (.onEncryptSeedFailure .seed_encrypt_general_failure ∈ PinChange.after.shown ∧
      readSeedAndDecrypt PinChange.pinCrypto PinChange.after.datadir Known.pin =
        .error (.generalSecurityException "MAC stored in civ does not match computed MAC.") ∧
      PinChange.after.pin = some PinChange.newPin) ∧
    ¬Honest PinChange.pinCrypto Known.pin PinChange.newPin PinChange.oldSeed.version Known.blob
      PinChange.phone PinChange.after := by
  have hshown : .onEncryptSeedFailure .seed_encrypt_general_failure ∈ PinChange.after.shown := by
    decide +kernel
  have hpin : PinChange.after.pin = some PinChange.newPin := by decide +kernel
  refine ⟨⟨hshown, by decide +kernel, hpin⟩, fun h => ?_⟩
  have hsame := (h.failure _ hshown).2
  rw [hpin] at hsame
  exact absurd hsame (by decide)

end EclairActivity

end EclairMobile
