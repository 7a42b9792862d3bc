import EclairMobile.Activities.EclairActivity
import EclairMobile.Utils.Mnemonics

/-!
# KeystoreHelper

The PIN of the biometric login.  A key in the keystore encrypts it; what comes out and the
initialization vector are kept in the preferences, and `decryptPin` needs all three.
-/

namespace EclairMobile

open Lib

variable {SecretKey : Type}

/-- `AES/CBC/PKCS7Padding` of the keystore, given a key and an initialization vector. -/
structure PinCipher (SecretKey : Type) where
  encrypt : SecretKey → Bytes → Bytes → Bytes
  decrypt : SecretKey → Bytes → Bytes → Except Throwable Bytes

/-- The keystore decrypts with a key what it encrypted with the same key. -/
def PinCipher.Lawful (k : PinCipher SecretKey) : Prop :=
  ∀ sk iv data, k.decrypt sk iv (k.encrypt sk iv data) = .ok data

/-- The toasts around the biometric login. -/
inductive BiometricToast
  | security_biometric_enabled
  | security_biometric_error
  | security_pin_failure
  deriving DecidableEq, Repr

/-- The phone, with the key for the PIN and what the preferences keep of the PIN. -/
structure SignIn (SecretKey : Type) where
  phone : Phone
  /-- The key that was generated last.  It is in the keystore as long as `phone.keyForPin`. -/
  generatedKey : Option SecretKey := none
  encryptedPINIV : Option Bytes := none
  encryptedPIN : Option Bytes := none
  toasts : List BiometricToast := []

namespace KeystoreHelper

/-- What goes wrong in the steps of `encryptPin`. -/
structure EncryptPinFaults where
  getKeyForPin : Option Throwable := none
  initCipher : Option Throwable := none
  saveEncryptedPINIV : Option Throwable := none
  doFinal : Option Throwable := none
  saveEncryptedPIN : Option Throwable := none

def generateKeyForPin (fault : Option Throwable) (key : SecretKey) :
    Fallible (SignIn SecretKey) Throwable Unit :=
  Fallible.step fault fun s =>
    { s with phone := { s.phone with keyForPin := true }, generatedKey := some key }

def getKeyForPin (s : SignIn SecretKey) : Option SecretKey :=
  if s.phone.keyForPin then s.generatedKey else none

def deleteKeyForPin (fault : Option Throwable) : Fallible (SignIn SecretKey) Throwable Unit :=
  Fallible.step fault fun s => { s with phone := { s.phone with keyForPin := false } }

variable (k : PinCipher SecretKey)

/-- `iv` is what `cipher.init` picks. -/
def encryptPin (faults : EncryptPinFaults) (pin : String) (iv : Bytes) :
    Fallible (SignIn SecretKey) Throwable Unit := do
  Fallible.orThrow faults.getKeyForPin
  match getKeyForPin (← get) with
  | none => throw (.runtimeException "no key found!")
  | some sk =>
    Fallible.orThrow faults.initCipher
    Fallible.step faults.saveEncryptedPINIV fun s => { s with encryptedPINIV := some iv }
    Fallible.orThrow faults.doFinal
    Fallible.step faults.saveEncryptedPIN fun s =>
      { s with encryptedPIN := some (k.encrypt sk iv (WalletUtils.toByteArray pin)) }

/-- `x ?: throw RuntimeException(message)`. -/
def orRuntimeException {α : Type} (x : Option α) (message : String) : Except Throwable α :=
  x.elim (.error (.runtimeException message)) .ok

def decryptPin (s : SignIn SecretKey) : Except Throwable Bytes := do
  let sk ← orRuntimeException (getKeyForPin s) "could not retrieve PIN key from keystore"
  let iv ← orRuntimeException s.encryptedPINIV "pin initialization vector is missing"
  let pin ← orRuntimeException s.encryptedPIN "encrypted pin is missing"
  k.decrypt sk iv pin

variable {k} {s s' : SignIn SecretKey}

/-- Of the phone only the presence of the key matters. -/
theorem decryptPin_congr {phone : Phone} (h : phone.keyForPin = s.phone.keyForPin) :
    decryptPin k { s with phone := phone } = decryptPin k s := by
  have hkey : getKeyForPin { s with phone := phone } = getKeyForPin s := by
    unfold getKeyForPin
    rw [h]
  unfold decryptPin
  rw [hkey]

theorem decryptPin_eq_ok (hk : k.Lawful) {sk : SecretKey} {iv data : Bytes}
    (hkey : getKeyForPin s = some sk) (hiv : s.encryptedPINIV = some iv)
    (hpin : s.encryptedPIN = some (k.encrypt sk iv data)) : decryptPin k s = .ok data := by
  unfold decryptPin
  rw [hkey, hiv, hpin]
  exact hk sk iv data

/-- **What was encrypted is what will be released.** -/
theorem triple_encryptPin (hk : k.Lawful) (faults : EncryptPinFaults) (pin : String) (iv : Bytes)
    (phone : Phone) :
    Fallible.Triple (fun s => s.phone = phone) (encryptPin k faults pin iv)
      (fun _ s => s.phone = phone ∧ decryptPin k s = .ok (WalletUtils.toByteArray pin))
      fun _ s => s.phone = phone := by
  unfold encryptPin
  refine .bind (Fallible.triple_orThrow (fun _ _ h => h) fun _ _ _ h => h) fun _ =>
    .bind (Fallible.triple_get (Q := fun s₀ s => s.phone = phone ∧ s₀ = s) fun _ h => ⟨h, rfl⟩)
      fun s₀ => ?_
  cases hkey : getKeyForPin s₀ with
  | none => exact Fallible.triple_throw fun _ h => h.1
  | some sk =>
    -- the phone and the key stay, and what is saved stays
    refine .bind (Fallible.triple_orThrow (T := fun s => s.phone = phone ∧ getKeyForPin s = some sk)
      (fun s _ h => ⟨h.1, h.2 ▸ hkey⟩) fun _ _ _ h => h.1) fun _ => ?_
    refine .bind (Fallible.triple_step (T := fun s =>
      (s.phone = phone ∧ getKeyForPin s = some sk) ∧ s.encryptedPINIV = some iv)
        (fun s _ h => ⟨h, rfl⟩) fun _ _ _ h => h.1) fun _ => ?_
    refine .bind (Fallible.triple_orThrow (fun _ _ h => h) fun _ _ _ h => h.1.1) fun _ => ?_
    exact Fallible.triple_step
      (fun s _ h => ⟨h.1.1, decryptPin_eq_ok hk h.1.2 h.2 rfl⟩) fun _ _ _ h => h.1.1

end KeystoreHelper

end EclairMobile
