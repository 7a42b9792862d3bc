import EclairMobile.Lib.Format
import EclairMobile.Utils.FileFormats

/-!
# Headers that are cut short

Both readers ignore how many bytes the stream gave them.  A file that ends inside its salt, vector
or MAC is therefore accepted, with zeroes for what is missing, and it is the only kind of file that
is not written back as it was.
-/

namespace EclairMobile

open Lib EncryptedData

/-! ### Vector, MAC and cipher text -/

namespace EncryptedData

variable {ivLength macLength : ℕ} {rest : Bytes}

/-- The vector and the MAC are there, so nothing is added. -/
theorem writeCiv_readCiv (h : ivLength + macLength ≤ rest.length) :
    writeCiv (readCiv ivLength macLength ⟨rest⟩) = rest := by
  have hiv : ivLength - rest.length = 0 := by omega
  have hmac : macLength - (rest.length - ivLength) = 0 := by omega
  simp only [writeCiv, readCiv, ByteStream.readBuffer_available]
  simp only [ByteStream.readBuffer, List.length_drop, hiv, hmac, List.replicate_zero,
    List.append_nil, List.drop_drop]
  rw [← List.take_add, List.take_append_drop]

theorem le_length_writeCiv {civ : AesCbcWithIntegrity.CipherTextIvMac}
    (hiv : civ.iv.length = ivLength) (hmac : civ.mac.length = macLength) :
    ivLength + macLength ≤ (writeCiv civ).length := by
  simp only [writeCiv, List.length_append]
  omega

end EncryptedData

/-! ### Backups -/

namespace EncryptedBackup

/-- The format of a backup file. -/
def format : Format Throwable EncryptedBackup Bytes := ⟨write, read, read_of_write⟩

theorem exactAt_format {content : Bytes} : format.ExactAt content ↔
    ∀ backup, read content = .ok backup → backup.write = .ok content := Iff.rfl

/-- The version, the vector and the MAC. -/
def headerLength : ℕ := 1 + IV_LENGTH_V1 + MAC_LENGTH_V1

theorem le_length_of_write {backup : EncryptedBackup} {content : Bytes}
    (h : backup.write = .ok content) : headerLength ≤ content.length := by
  obtain ⟨-, hiv, hmac, rfl⟩ := write_ok_iff.mp h
  have := le_length_writeCiv hiv hmac
  simp only [headerLength, writeByte, List.length_append, List.length_singleton]
  omega

/-- **A backup file is written back as it was, unless its header is cut short.** -/
theorem exactAt_format_iff (content : Bytes) : format.ExactAt content ↔
    (Handled (ByteStream.read ⟨content⟩).1 → headerLength ≤ content.length) := by
  obtain _ | ⟨b, rest⟩ := content
  · simp [exactAt_format, read, Handled, BACKUP_VERSION_1, BACKUP_VERSION_2,
      BACKUP_VERSION_3]
  · simp only [exactAt_format, ByteStream.read_cons, read_cons]
    constructor
    · intro h hv
      exact le_length_of_write (h _ (if_pos hv))
    · intro h backup hread
      split_ifs at hread with hv
      cases hread
      have hlen := h hv
      rw [headerLength, List.length_cons] at hlen
      refine write_ok_iff.mpr ⟨hv, by simp, ?_, ?_⟩
      · exact ByteStream.length_readBuffer _ _
      · rw [writeCiv_readCiv (by omega), writeByte_toNat, List.singleton_append]

end EncryptedBackup

/-! ### Seeds -/

namespace EncryptedSeed

/-- The format of a seed file. -/
def format : Format Throwable EncryptedSeed Bytes := ⟨write, read, read_of_write⟩

theorem exactAt_format {content : Bytes} : format.ExactAt content ↔
    ∀ seed, read content = .ok seed → seed.write = .ok content := Iff.rfl

/-- The version, the salt, the vector and the MAC. -/
def headerLength : ℕ := 1 + SALT_LENGTH_V1 + IV_LENGTH_V1 + MAC_LENGTH_V1

theorem le_length_of_write {seed : EncryptedSeed} {content : Bytes}
    (h : seed.write = .ok content) : headerLength ≤ content.length := by
  obtain ⟨-, hsalt, hiv, hmac, rfl⟩ := write_ok_iff.mp h
  have := le_length_writeCiv hiv hmac
  simp only [headerLength, writeByte, List.length_append, List.length_singleton]
  omega

/-- **A seed file is written back as it was, unless its header is cut short.** -/
theorem exactAt_format_iff (content : Bytes) : format.ExactAt content ↔
    (Handled (ByteStream.read ⟨content⟩).1 → headerLength ≤ content.length) := by
  obtain _ | ⟨b, rest⟩ := content
  · simp [exactAt_format, read, Handled, SEED_FILE_VERSION_1, SEED_FILE_VERSION_2]
  · simp only [exactAt_format, ByteStream.read_cons, read_cons]
    constructor
    · intro h hv
      exact le_length_of_write (h _ (if_pos hv))
    · intro h seed hread
      split_ifs at hread with hv
      cases hread
      have hlen := h hv
      rw [headerLength, List.length_cons] at hlen
      -- the salt is all there, so the rest of the stream is what is behind it
      have hsalt : SALT_LENGTH_V1 - rest.length = 0 := by omega
      refine write_ok_iff.mpr ⟨hv, by simp, by simp, ByteStream.length_readBuffer _ _, ?_⟩
      simp only [ByteStream.readBuffer]
      rw [writeCiv_readCiv (by rw [List.length_drop]; omega), hsalt]
      simp

end EncryptedSeed

/-! ### Both formats -/

/-- **Both readers accept exactly what is written, except for a handled version in front of a header
that is cut short.** -/
theorem readersExact_iff (content : Bytes) :
    ((EncryptedBackup.format.ExactAt content ∧
        (EncryptedBackup.format.Accepts content ↔ EncryptedBackup.format.Produces content)) ↔
      (EncryptedBackup.Handled (ByteStream.read ⟨content⟩).1 →
        EncryptedBackup.headerLength ≤ content.length)) ∧
    ((EncryptedSeed.format.ExactAt content ∧
        (EncryptedSeed.format.Accepts content ↔ EncryptedSeed.format.Produces content)) ↔
      (EncryptedSeed.Handled (ByteStream.read ⟨content⟩).1 →
        EncryptedSeed.headerLength ≤ content.length)) := by
  rw [← Format.exactAt_iff, ← Format.exactAt_iff, and_self, and_self]
  exact ⟨EncryptedBackup.exactAt_format_iff content, EncryptedSeed.exactAt_format_iff content⟩

/-- The single byte 1 is a backup and a seed, and both are written back much longer. -/
theorem not_readersExact : ¬ ∀ content : Bytes,
    EncryptedBackup.format.ExactAt content ∧ EncryptedSeed.format.ExactAt content := by
  intro h
  have hlen := EncryptedBackup.le_length_of_write ((h [1]).1 _ rfl)
  exact absurd hlen (by decide)

end EclairMobile
