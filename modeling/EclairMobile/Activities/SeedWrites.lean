import EclairMobile.Activities.EclairActivity
import EclairMobile.Utils.Mnemonics

/-!
# What `encryptWallet` does to the data directory

`encryptWallet` is shared by the screens that create, restore and encrypt a seed.  Whatever fails in
it, it either leaves every file but the temporary one, or puts the encrypted payload in the place of
the seed file; and it reports a success only in the second case.
-/

namespace EclairMobile

open Lib AesCbcWithIntegrity WalletUtils

def WALLET_ORIGIN_FROM_SCRATCH : ℕ := 1
def WALLET_ORIGIN_RESTORED_FROM_SEED : ℕ := 2

/-- The content of a file, if there is one of this name. -/
def fileAt (datadir : Datadir) (name : String) : Option Bytes :=
  datadir.bind fun files => files name

namespace WalletUtils

@[simp] theorem fileAt_some (files : String → Option Bytes) (name : String) :
    fileAt (some files) name = files name := rfl

/-- The directory holds what it held, up to the temporary file. -/
def Kept (before after : Datadir) : Prop :=
  ∀ name, name ≠ SEED_NAME_TEMP → fileAt after name = fileAt before name

/-- The seed file opens with the password, and the payload is in it. -/
def Holds (c : Crypto) (payload : Bytes) (version : ℤ) (password : String) (datadir : Datadir) :
    Prop :=
  ∃ salt iv bytes, (EncryptedSeed.encrypt c payload password version salt iv).write = .ok bytes ∧
    fileAt datadir SEED_NAME = some bytes

/-- The payload is in the seed file, and the other files are as before. -/
structure Rewritten (c : Crypto) (payload : Bytes) (version : ℤ) (password : String)
    (before after : Datadir) : Prop where
  holds : Holds c payload version password after
  others : ∀ name, name ≠ SEED_NAME → name ≠ SEED_NAME_TEMP →
    fileAt after name = fileAt before name

variable {c : Crypto} {faults : WriteFaults} {payload : Bytes} {password : String} {version : ℤ}
  {salt : RandomBytes PBE_SALT_LENGTH_BITS} {iv : RandomBytes IV_LENGTH_BYTES}

theorem Kept.refl (datadir : Datadir) : Kept datadir datadir := fun _ _ => rfl

theorem Kept.trans {d₁ d₂ d₃ : Datadir} (h₁ : Kept d₁ d₂) (h₂ : Kept d₂ d₃) : Kept d₁ d₃ :=
  fun name hne => (h₂ name hne).trans (h₁ name hne)

theorem Kept.seedFile {before after : Datadir} (h : Kept before after) :
    fileAt after SEED_NAME = fileAt before SEED_NAME := h SEED_NAME (by decide)

theorem Holds.congr {d₁ d₂ : Datadir} (h : Holds c payload version password d₁)
    (heq : fileAt d₂ SEED_NAME = fileAt d₁ SEED_NAME) : Holds c payload version password d₂ := by
  obtain ⟨salt, iv, bytes, hw, hfile⟩ := h
  exact ⟨salt, iv, bytes, hw, heq.trans hfile⟩

theorem Holds.opens (hc : c.Lawful) {datadir : Datadir}
    (h : Holds c payload version password datadir) :
    ∃ seed, readSeedAndDecrypt c datadir password = .ok (seed, payload) ∧
      seed.version = version := by
  obtain ⟨salt, iv, bytes, hw, hfile⟩ := h
  cases datadir with
  | none => cases hfile
  | some files =>
    have hhold : HoldsSeed (some bytes) (some files) := ⟨files, rfl, hfile⟩
    refine ⟨EncryptedSeed.encrypt c payload password version salt iv, ?_, rfl⟩
    rw [EclairActivity.readSeedAndDecrypt_of_holdsSeed hhold, EncryptedSeed.read_of_write hw]
    show (EncryptedSeed.decrypt c _ password >>= fun blob => _) = _
    rw [EncryptedSeed.decrypt_encrypt hc]
    rfl

/-! ### The write of the file -/

/-- Every step up to the move leaves the files but the temporary one. -/
theorem kept_mkdir (datadir : Datadir) : Kept datadir (mkdir datadir) := by
  cases datadir with
  | none => exact fun _ _ => rfl
  | some files => exact Kept.refl _

theorem triple_createDatadir (before : Datadir) (fault : Option Throwable) :
    Fallible.Triple (Kept before) (createDatadir fault) (fun _ => Kept before)
      fun _ => Kept before := by
  unfold createDatadir
  refine Fallible.Triple.bind (Fallible.triple_get (Q := fun _ => Kept before) fun _ h => h) ?_
  intro datadir
  split
  · exact Fallible.triple_step (fun d _ h => h.trans (kept_mkdir d)) fun _ _ _ h => h
  · exact Fallible.triple_pure fun _ h => h

theorem triple_write (before : Datadir) (fault : Option (ℕ × Throwable)) (bytes : Bytes) :
    Fallible.Triple (Kept before) (write fault bytes SEED_NAME_TEMP)
      (fun _ d => Kept before d ∧ fileAt d SEED_NAME_TEMP = some bytes) fun _ => Kept before := by
  have hkept : ∀ (files : String → Option Bytes) (content : Bytes), Kept before (some files) →
      Kept before (some (Function.update files SEED_NAME_TEMP (some content))) := by
    intro files content h name hne
    rw [fileAt_some, Function.update_of_ne hne]
    exact h name hne
  constructor
  · intro d u d' h hx
    cases d with
    | none => cases congrArg Prod.fst hx
    | some files =>
      obtain ⟨-, rfl⟩ := write_eq_ok hx
      refine ⟨hkept files bytes h, ?_⟩
      rw [fileAt_some, Function.update_self]
  · intro d e d' h hx
    cases d with
    | none =>
      cases hx
      exact h
    | some files =>
      cases fault with
      | none => cases congrArg Prod.fst hx
      | some fault =>
        cases hx
        exact hkept files _ h

theorem triple_move {before : Datadir} {bytes : Bytes} (fault : Option Throwable)
    (hw : (EncryptedSeed.encrypt c payload password version salt iv).write = .ok bytes) :
    Fallible.Triple (fun d => Kept before d ∧ fileAt d SEED_NAME_TEMP = some bytes)
      (move fault SEED_NAME_TEMP SEED_NAME)
      (fun _ => Rewritten c payload version password before) fun _ => Kept before := by
  refine Fallible.triple_step ?_ fun _ _ _ h => h.1
  rintro d - ⟨hkept, htemp⟩
  have hne : SEED_NAME ≠ SEED_NAME_TEMP := by decide
  cases d with
  | none => cases htemp
  | some files =>
    rw [fileAt_some] at htemp
    refine ⟨⟨salt, iv, bytes, hw, ?_⟩, ?_⟩
    · show Function.update (Function.update files SEED_NAME (files SEED_NAME_TEMP))
        SEED_NAME_TEMP none SEED_NAME = _
      rw [Function.update_of_ne hne, Function.update_self, htemp]
    · intro name hseed htmp
      show Function.update (Function.update files SEED_NAME (files SEED_NAME_TEMP))
        SEED_NAME_TEMP none name = _
      rw [Function.update_of_ne htmp, Function.update_of_ne hseed]
      exact hkept name htmp

/-- **A write of the seed file** puts the payload there, or leaves all but the temporary file. -/
theorem triple_writeSeedFile (before : Datadir) :
    Fallible.Triple (· = before) (writeSeedFile c faults payload password version salt iv)
      (fun _ => Rewritten c payload version password before) fun _ => Kept before := by
  unfold writeSeedFile encryptCheckAndMove
  refine Fallible.Triple.tryCatch (R := fun _ => Kept before) ?_ fun _ =>
    Fallible.triple_throw fun _ h => h
  refine Fallible.Triple.imp (P := Kept before) ?_ ?_ (fun _ _ h => h) fun _ _ h => h
  swap
  · rintro d rfl
    exact Kept.refl d
  refine (triple_createDatadir before _).bind fun _ => ?_
  refine (Fallible.triple_orThrow (T := Kept before) (fun _ _ h => h) fun _ _ _ h => h).bind
    fun _ => ?_
  -- the bytes that are written are those of the encrypted payload
  refine (Fallible.triple_ofExcept
    (Q := fun bytes d => (EncryptedSeed.encrypt c payload password version salt iv).write =
      .ok bytes ∧ Kept before d) (fun _ _ hw h => ⟨hw, h⟩) fun _ _ h => h).bind fun bytes => ?_
  refine Fallible.Triple.of_forall ?_
  rintro d ⟨hw, hkept⟩
  refine Fallible.Triple.imp (P := Kept before) ?_ ?_ (fun _ _ h => h) fun _ _ h => h
  swap
  · rintro d rfl
    exact hkept
  refine (triple_write before _ bytes).bind fun _ => ?_
  refine (Fallible.triple_get (Q := fun _ d => Kept before d ∧
    fileAt d SEED_NAME_TEMP = some bytes) fun _ h => h).bind fun datadir => ?_
  refine (Fallible.triple_ofExcept (Q := fun _ d => Kept before d ∧
    fileAt d SEED_NAME_TEMP = some bytes) (fun _ _ _ h => h) fun _ _ h => h.1).bind fun temp => ?_
  refine (Fallible.triple_orThrow (T := fun d => Kept before d ∧
    fileAt d SEED_NAME_TEMP = some bytes) (fun _ _ h => h) fun _ _ _ h => h.1).bind fun _ => ?_
  refine (Fallible.triple_ofExcept (Q := fun _ d => Kept before d ∧
    fileAt d SEED_NAME_TEMP = some bytes) (fun _ _ _ h => h) fun _ _ h => h.1).bind
      fun checkBlob => ?_
  split
  · exact Fallible.triple_throw fun _ h => h.1
  · exact triple_move _ hw

end WalletUtils

/-! ### The dialogs -/

namespace EclairActivity

variable {c : Crypto} {faults : EncryptFaults} {payload : Bytes} {version : ℤ}
  {newPin : Option String} {confirmPin : String} {salt : RandomBytes PBE_SALT_LENGTH_BITS}
  {iv : RandomBytes IV_LENGTH_BYTES} {phone : Phone}

/-- What the steps behind the file leave of the directory. -/
theorem datadir_afterWrite (faults : EncryptFaults) (confirmPin : String) (phone : Phone) :
    ((tryCatch (afterWrite faults confirmPin) fun _ =>
      display (.onEncryptSeedFailure .seed_encrypt_general_failure)).exec phone).2.datadir =
        phone.datadir := by
  rw [Fallible.exec_tryCatch]
  by_cases h : faults.NoneAfterWrite
  · rw [exec_afterWrite h]
  · obtain ⟨e, phone', hexec, hdatadir, -⟩ := exec_afterWrite_fault h confirmPin phone
    rw [hexec]
    exact hdatadir

/-- What `encryptWallet` did: nothing but a failure, or a new seed file under the confirmed PIN. -/
inductive Encrypted (c : Crypto) (payload : Bytes) (version : ℤ) (newPin : Option String)
    (confirmPin : String) (before after : Phone) : Prop
  | failed (kept : Kept before.datadir after.datadir)
      (shown : .onEncryptSeedSuccess ∈ after.shown → .onEncryptSeedSuccess ∈ before.shown)
  | written (accepted : Accepted newPin confirmPin)
      (rewritten : Rewritten c payload version confirmPin before.datadir after.datadir)

/-- **Whatever fails, `encryptWallet` writes the payload under the PIN that was confirmed, or does
not touch the seed file and reports a failure.** -/
theorem exec_encryptWallet_cases :
    Encrypted c payload version newPin confirmPin phone
      ((encryptWallet c faults payload version newPin confirmPin salt iv).exec phone).2 := by
  by_cases hacc : Accepted newPin confirmPin
  · rcases hw : (writeSeedFile c faults.file payload confirmPin version salt iv).exec
      phone.datadir with ⟨e | u, datadir'⟩
    · refine .failed ?_ ?_
      · rw [exec_encryptWallet_error hacc hw]
        exact (triple_writeSeedFile phone.datadir).of_throws rfl hw
      · rw [exec_encryptWallet_error hacc hw]
        simp
    · refine .written hacc ?_
      rw [exec_encryptWallet_ok hacc hw, datadir_afterWrite]
      exact (triple_writeSeedFile phone.datadir).of_returns rfl hw
  · unfold encryptWallet
    split_ifs with h₁ h₂
    · exact .failed (Kept.refl _) (by simp)
    · exact .failed (Kept.refl _) (by simp)
    · exact absurd ⟨not_not.mp h₁, not_not.mp h₂⟩ hacc

end EclairActivity

end EclairMobile
