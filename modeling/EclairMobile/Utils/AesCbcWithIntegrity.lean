import EclairMobile.Lib.Bytes
import Mathlib.Logic.Equiv.Basic

/-!
# AesCbcWithIntegrity

AES in CBC mode under a HMAC of the initialization vector and the cipher text.  The primitives come
with the platform, so they are the fields of `Crypto`, and `Crypto.Lawful` says what the code relies
on.
-/

namespace EclairMobile

open Lib

/-- What the code can throw.  `error` stands for the throwables that are not exceptions. -/
inductive Throwable
  | runtimeException (message : String)
  | securityException (message : String)
  | ioException (message : String)
  | generalSecurityException (message : String)
  | externalStorageUnavailableException
  | error (message : String)
  deriving DecidableEq, Repr

/-- The primitives of the platform. -/
structure Crypto where
  /-- `AES/CBC/PKCS5Padding`, given a key, an initialization vector and a plain text. -/
  aesEncrypt : Bytes → Bytes → Bytes → Bytes
  /-- The inverse, which throws on a bad padding or a broken block. -/
  aesDecrypt : Bytes → Bytes → Bytes → Option Bytes
  /-- `HmacSHA256`, given a key and a message. -/
  hmacSHA256 : Bytes → Bytes → Bytes
  /-- `PBKDF2WithHmacSHA1` with 10000 iterations and 384 bits of output. -/
  pbkdf2 : String → Bytes → Bytes
  /-- All that a `DeflaterOutputStream` writes for an array. -/
  deflate : Bytes → Bytes
  /-- All that an `InflaterOutputStream` writes for an array, which throws on a broken one. -/
  inflate : Bytes → Option Bytes

/-- An array filled by `SecureRandom`. -/
abbrev RandomBytes (n : ℕ) := { b : Bytes // b.length = n }

namespace AesCbcWithIntegrity

def AES_KEY_LENGTH_BITS : ℕ := 128
def HMAC_KEY_LENGTH_BITS : ℕ := 256
def IV_LENGTH_BYTES : ℕ := 16

/-- A number of bytes, despite its name. -/
def PBE_SALT_LENGTH_BITS : ℕ := AES_KEY_LENGTH_BITS

end AesCbcWithIntegrity

open AesCbcWithIntegrity

/-- What the code relies on. -/
structure Crypto.Lawful (c : Crypto) : Prop where
  decrypt_encrypt : ∀ key iv data, key.length = AES_KEY_LENGTH_BITS / 8 →
    iv.length = IV_LENGTH_BYTES → c.aesDecrypt key iv (c.aesEncrypt key iv data) = some data
  length_hmac : ∀ key message, (c.hmacSHA256 key message).length = 32
  length_pbkdf2 : ∀ password salt,
    (c.pbkdf2 password salt).length = (AES_KEY_LENGTH_BITS + HMAC_KEY_LENGTH_BITS) / 8
  inflate_deflate : ∀ data, c.inflate (c.deflate data) = some data

namespace AesCbcWithIntegrity

structure SecretKeys where
  confidentialityKey : Bytes
  integrityKey : Bytes
  deriving DecidableEq, Repr

structure CipherTextIvMac where
  cipherText : Bytes
  iv : Bytes
  mac : Bytes
  deriving DecidableEq, Repr

/-- The message under the MAC. -/
def CipherTextIvMac.ivCipherConcat (civ : CipherTextIvMac) : Bytes := civ.iv ++ civ.cipherText

variable (c : Crypto)

/-- The salt is the output of `generateSalt`. -/
def generateKeyFromPassword (password : String) (salt : Bytes) : SecretKeys :=
  let keyBytes := c.pbkdf2 password salt
  { confidentialityKey := keyBytes.take (AES_KEY_LENGTH_BITS / 8)
    integrityKey := (keyBytes.drop (AES_KEY_LENGTH_BITS / 8)).take (HMAC_KEY_LENGTH_BITS / 8) }

/-- The initialization vector is the output of `generateIv`. -/
def encrypt (plaintext : Bytes) (secretKeys : SecretKeys) (iv : RandomBytes IV_LENGTH_BYTES) :
    CipherTextIvMac :=
  let byteCipherText := c.aesEncrypt secretKeys.confidentialityKey iv plaintext
  let integrityMac := c.hmacSHA256 secretKeys.integrityKey (iv ++ byteCipherText)
  ⟨byteCipherText, iv, integrityMac⟩

/-- The arrays are compared to the end: differences are collected in `result`. -/
def constantTimeEq (a b : Bytes) : Bool :=
  if a.length ≠ b.length then false
  else
    let result := (List.zipWith (· ^^^ ·) a b).foldl (· ||| ·) 0
    result == 0

def decrypt (civ : CipherTextIvMac) (secretKeys : SecretKeys) : Except Throwable Bytes :=
  let computedMac := c.hmacSHA256 secretKeys.integrityKey civ.ivCipherConcat
  if constantTimeEq computedMac civ.mac then
    match c.aesDecrypt secretKeys.confidentialityKey civ.iv civ.cipherText with
    | some plaintext => .ok plaintext
    | none => .error (.generalSecurityException "pad block corrupted")
  else .error (.generalSecurityException "MAC stored in civ does not match computed MAC.")

/-! ### The comparison -/

theorem foldl_or_eq_zero_iff (l : Bytes) (r : UInt8) :
    l.foldl (· ||| ·) r = 0 ↔ r = 0 ∧ ∀ x ∈ l, x = 0 := by
  induction l generalizing r with
  | nil => simp
  | cons x xs ih => rw [List.foldl_cons, ih, UInt8.or_eq_zero_iff, List.forall_mem_cons, and_assoc]

theorem zipWith_xor_eq_zero_iff {a b : Bytes} (h : a.length = b.length) :
    (∀ x ∈ List.zipWith (· ^^^ ·) a b, x = 0) ↔ a = b := by
  induction a generalizing b with
  | nil =>
    have hb : b = [] := List.length_eq_zero_iff.mp h.symm
    simp [hb]
  | cons x xs ih =>
    obtain _ | ⟨y, ys⟩ := b
    · simp at h
    · rw [List.zipWith_cons_cons, List.forall_mem_cons, ih (by simpa using h), List.cons.injEq,
        UInt8.xor_eq_zero_iff]

@[simp] theorem constantTimeEq_iff {a b : Bytes} : constantTimeEq a b = true ↔ a = b := by
  unfold constantTimeEq
  by_cases h : a.length = b.length
  · simp only [h, ne_eq, not_true_eq_false, if_false, beq_iff_eq]
    rw [foldl_or_eq_zero_iff, zipWith_xor_eq_zero_iff h]
    simp
  · simp only [h, ne_eq, not_false_eq_true, if_true, Bool.false_eq_true, false_iff]
    exact fun e => h (congrArg List.length e)

/-! ### Decryption -/

/-- What the check of the MAC asks. -/
def Authentic (civ : CipherTextIvMac) (secretKeys : SecretKeys) : Prop :=
  c.hmacSHA256 secretKeys.integrityKey civ.ivCipherConcat = civ.mac

instance (civ : CipherTextIvMac) (secretKeys : SecretKeys) :
    Decidable (Authentic c civ secretKeys) := by unfold Authentic; infer_instance

variable {c}

/-- Nothing is decrypted without the check of the MAC. -/
theorem authentic_of_decrypt {civ : CipherTextIvMac} {secretKeys : SecretKeys} {plaintext : Bytes}
    (h : decrypt c civ secretKeys = .ok plaintext) : Authentic c civ secretKeys := by
  simp only [decrypt] at h
  split at h
  · next hmac => exact constantTimeEq_iff.mp hmac
  · cases h

theorem decrypt_of_authentic {civ : CipherTextIvMac} {secretKeys : SecretKeys} {plaintext : Bytes}
    (h : Authentic c civ secretKeys)
    (hp : c.aesDecrypt secretKeys.confidentialityKey civ.iv civ.cipherText = some plaintext) :
    decrypt c civ secretKeys = .ok plaintext := by
  have hmac : constantTimeEq (c.hmacSHA256 secretKeys.integrityKey civ.ivCipherConcat) civ.mac =
      true := constantTimeEq_iff.mpr h
  simp only [decrypt, hmac, if_true, hp]

theorem authentic_encrypt (plaintext : Bytes) (secretKeys : SecretKeys)
    (iv : RandomBytes IV_LENGTH_BYTES) :
    Authentic c (encrypt c plaintext secretKeys iv) secretKeys := rfl

/-- **Decryption inverts encryption.** -/
theorem decrypt_encrypt (hc : c.Lawful) {secretKeys : SecretKeys}
    (hk : secretKeys.confidentialityKey.length = AES_KEY_LENGTH_BITS / 8) (plaintext : Bytes)
    (iv : RandomBytes IV_LENGTH_BYTES) :
    decrypt c (encrypt c plaintext secretKeys iv) secretKeys = .ok plaintext :=
  decrypt_of_authentic (authentic_encrypt plaintext secretKeys iv)
    (hc.decrypt_encrypt _ _ plaintext hk iv.2)

theorem length_confidentialityKey (hc : c.Lawful) (password : String) (salt : Bytes) :
    (generateKeyFromPassword c password salt).confidentialityKey.length =
      AES_KEY_LENGTH_BITS / 8 := by
  simp [generateKeyFromPassword, hc.length_pbkdf2, AES_KEY_LENGTH_BITS, HMAC_KEY_LENGTH_BITS]

/-- Two messages with vectors of one length are the same only field by field. -/
theorem CipherTextIvMac.ext_of_concat {civ civ' : CipherTextIvMac}
    (hiv : civ.iv.length = civ'.iv.length) (h : civ.ivCipherConcat = civ'.ivCipherConcat)
    (hmac : civ.mac = civ'.mac) : civ = civ' := by
  obtain ⟨hi, hct⟩ := List.append_inj h hiv
  cases civ
  cases civ'
  simp_all

/-! ### The ideal MAC -/

variable (c) in
/-- **The ideal MAC at one reading.**  Each key has a name: the generation of a backup key, the salt
of a seed key.  If the check succeeds under the key named `used`, then this is the key of the
writer, and the message is the writer's. -/
def Unforged {K : Type} (keyOf : K → SecretKeys) (writer : K) (written : CipherTextIvMac) (used : K)
    (civ : CipherTextIvMac) : Prop :=
  Authentic c civ (keyOf used) → used = writer ∧ civ.ivCipherConcat = written.ivCipherConcat

/-- Only what was written passes the check. -/
theorem Unforged.eq {K : Type} {keyOf : K → SecretKeys} {writer used : K}
    {written civ : CipherTextIvMac} (h : Unforged c keyOf writer written used civ)
    (hw : Authentic c written (keyOf writer)) (ha : Authentic c civ (keyOf used))
    (hiv : civ.iv.length = written.iv.length) : used = writer ∧ civ = written := by
  obtain ⟨rfl, hm⟩ := h ha
  refine ⟨rfl, CipherTextIvMac.ext_of_concat hiv hm ?_⟩
  calc civ.mac = c.hmacSHA256 (keyOf used).integrityKey civ.ivCipherConcat := ha.symm
    _ = c.hmacSHA256 (keyOf used).integrityKey written.ivCipherConcat := by rw [hm]
    _ = written.mac := hw

end AesCbcWithIntegrity

/-! ### Known answers -/

/-- Inputs of the primitives with their outputs. -/
structure KnownAnswers where
  aes : List ((Bytes × Bytes) × Bytes × Bytes) := []
  hmac : List ((Bytes × Bytes) × RandomBytes 32) := []
  pbkdf2 : List ((String × Bytes) × RandomBytes 48) := []
  zlib : List (Bytes × Bytes) := []

/-- The permutation that exchanges the two sides of each pair. -/
def swaps (pairs : List (Bytes × Bytes)) : Equiv.Perm Bytes :=
  pairs.foldr (fun p σ => (Equiv.swap p.1 p.2).trans σ) (Equiv.refl _)

/-- Primitives that give the known answers and are lawful everywhere else. -/
def Crypto.ofKnown (k : KnownAnswers) : Crypto :=
  let perm (key iv : Bytes) := swaps ((k.aes.filter fun e => e.1 = (key, iv)).map Prod.snd)
  { aesEncrypt := fun key iv data => perm key iv data
    aesDecrypt := fun key iv data => some ((perm key iv).symm data)
    hmacSHA256 := fun key message =>
      ((k.hmac.lookup (key, message)).map Subtype.val).getD (List.replicate 32 0)
    pbkdf2 := fun password salt =>
      ((k.pbkdf2.lookup (password, salt)).map Subtype.val).getD (List.replicate 48 0)
    deflate := swaps k.zlib
    inflate := fun data => some ((swaps k.zlib).symm data) }

theorem Crypto.ofKnown_lawful (k : KnownAnswers) : (Crypto.ofKnown k).Lawful where
  decrypt_encrypt key iv data _ _ := by simp [Crypto.ofKnown]
  length_hmac key message := by
    simp only [Crypto.ofKnown]
    cases k.hmac.lookup (key, message) with
    | none => simp
    | some tag => simpa using tag.2
  length_pbkdf2 password salt := by
    simp only [Crypto.ofKnown]
    cases k.pbkdf2.lookup (password, salt) with
    | none => rfl
    | some bytes => exact bytes.2
  inflate_deflate data := by simp [Crypto.ofKnown]

end EclairMobile
