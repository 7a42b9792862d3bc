import EclairMobile.Lib.Words
import EclairMobile.Utils.FileFormats

/-!
# Encoded mnemonics

What `encodeMnemonics` puts into a seed file: the seed in the first version; the words and the
passphrase, as the text of a JSON object, in the second.  Both are hex-encoded.  The libraries are
parameters: `SeedDecoders` reads, `SeedEncoders` writes.
-/

namespace EclairMobile

open Lib

/-- The encoders of the libraries. -/
structure SeedEncoders where
  /-- `Hex.encode`. -/
  hexEncode : Bytes → Bytes
  /-- `toString(0)` of a `JSONObject` with these strings, put in this order. -/
  jsonToString : List (String × String) → String
  /-- `MnemonicCode.toSeed` of words with a passphrase that is null. -/
  mnemonicCodeToSeedOfNull : List String → Except Throwable Bytes

namespace WalletUtils

/-! ### Encoding -/

/-- `toByteArray(Charsets.UTF_8)`. -/
def toByteArray (text : String) : Bytes := text.toUTF8.data.toList

section Encoding

variable (d : SeedDecoders) (e : SeedEncoders)

/-- `mnemonicsToSeed` of a passphrase that may be null. -/
def mnemonicsToSeedOrNull (words : List String) : Option String → Except Throwable Bytes
  | some passphrase => mnemonicsToSeed d words passphrase
  | none => e.mnemonicCodeToSeedOfNull words

/-- The strings of the JSON object. -/
def mnemonicsFields (words : List String) (passphrase : Option String) : List (String × String) :=
  [("words", String.intercalate " " words), ("passphrase", passphrase.getD "")]

/-- Return a hex-encoded Json byte array containing the mnemonics+passphrase. -/
def encodeMnemonics (version : ℤ) (words : List String) (passphrase : Option String) :
    Except Throwable Bytes := do
  let bytes ←
    if version = EncryptedSeed.SEED_FILE_VERSION_1 then mnemonicsToSeedOrNull d e words passphrase
    else if version = EncryptedSeed.SEED_FILE_VERSION_2 then
      .ok (toByteArray (e.jsonToString (mnemonicsFields words passphrase)))
    else .error (.runtimeException s!"unable to extract mnemonics, unhandled version={version}")
  .ok (e.hexEncode bytes)

/-! ### What the libraries promise -/

/-- Hex decoding inverts encoding, and so does the decoding of UTF-8. -/
structure Inverse : Prop where
  hexDecode_hexEncode : ∀ bytes, d.hexDecode (e.hexEncode bytes) = .ok bytes
  utf8_toByteArray : ∀ text, d.utf8 (toByteArray text) = text

/-- The text of a JSON object gives back the strings that were put into it. -/
def ReadsBack (fields : List (String × String)) : Prop :=
  ∀ field ∈ fields, d.getString (e.jsonToString fields) field.1 = .ok field.2

end Encoding

/-! ### Round trips -/

section RoundTrip

variable {d : SeedDecoders} {e : SeedEncoders} {words : List String} {passphrase : String}

theorem encodeMnemonics_v1 (words : List String) (passphrase : String) :
    encodeMnemonics d e EncryptedSeed.SEED_FILE_VERSION_1 words (some passphrase) =
      (mnemonicsToSeed d words passphrase).map e.hexEncode := rfl

theorem encodeMnemonics_v2 (words : List String) (passphrase : Option String) :
    encodeMnemonics d e EncryptedSeed.SEED_FILE_VERSION_2 words passphrase =
      .ok (e.hexEncode (toByteArray (e.jsonToString (mnemonicsFields words passphrase)))) := rfl

theorem byteArray2String_hexEncode (hinv : Inverse d e) (text : String) :
    byteArray2String d (e.hexEncode (toByteArray text)) = .ok text := by
  unfold byteArray2String
  rw [hinv.hexDecode_hexEncode]
  exact congrArg Except.ok (hinv.utf8_toByteArray text)

/-- The words and the passphrase are read back, a passphrase that is null as the empty one. -/
theorem decodeV2MnemonicsBlob_encode (hinv : Inverse d e) (hne : words ≠ [])
    (hblank : ∀ w ∈ words, ' ' ∉ w.toList) (passphrase : Option String)
    (hread : ReadsBack d e (mnemonicsFields words passphrase)) :
    decodeV2MnemonicsBlob d
        (e.hexEncode (toByteArray (e.jsonToString (mnemonicsFields words passphrase)))) =
      .ok (words, passphrase.getD "") := by
  have hwords := hread ("words", String.intercalate " " words) (by simp [mnemonicsFields])
  have hpassphrase := hread ("passphrase", passphrase.getD "") (by simp [mnemonicsFields])
  unfold decodeV2MnemonicsBlob
  rw [byteArray2String_hexEncode hinv]
  show (d.getString _ "words" >>= fun ws => d.getString _ "passphrase" >>= fun p =>
    Except.ok (ws.splitOn " ", p)) = _
  rw [hwords, hpassphrase]
  exact congrArg (fun ws => Except.ok (ws, passphrase.getD "")) (splitOn_intercalate hne hblank)

/-- **The words and the passphrase survive the second version of the seed file, and both versions
hold the same seed.** -/
theorem mnemonicsRoundTrip (hinv : Inverse d e) (hne : words ≠ [])
    (hblank : ∀ w ∈ words, ' ' ∉ w.toList)
    (hread : ReadsBack d e (mnemonicsFields words (some passphrase))) {file₁ file₂ : EncryptedSeed}
    (h₁ : file₁.version = EncryptedSeed.SEED_FILE_VERSION_1)
    (h₂ : file₂.version = EncryptedSeed.SEED_FILE_VERSION_2) :
    (encodeMnemonics d e EncryptedSeed.SEED_FILE_VERSION_2 words (some passphrase) >>=
        decodeV2MnemonicsBlob d) = .ok (words, passphrase) ∧
    (encodeMnemonics d e EncryptedSeed.SEED_FILE_VERSION_2 words (some passphrase) >>=
        decodeSeed d file₂) = mnemonicsToSeed d words passphrase ∧
    (encodeMnemonics d e EncryptedSeed.SEED_FILE_VERSION_1 words (some passphrase) >>=
        decodeSeed d file₁) = mnemonicsToSeed d words passphrase := by
  have hblob := decodeV2MnemonicsBlob_encode hinv hne hblank (some passphrase) hread
  refine ⟨?_, ?_, ?_⟩
  · rw [encodeMnemonics_v2]
    exact hblob
  · rw [encodeMnemonics_v2]
    show decodeSeed d file₂ _ = _
    unfold decodeSeed
    rw [h₂, if_neg (by decide), if_pos rfl, hblob]
    rfl
  · rw [encodeMnemonics_v1]
    cases hseed : mnemonicsToSeed d words passphrase with
    | error t => rfl
    | ok seed =>
      show decodeSeed d file₁ (e.hexEncode seed) = _
      unfold decodeSeed
      rw [if_pos h₁]
      exact hinv.hexDecode_hexEncode seed

end RoundTrip

end WalletUtils

/-! ### Known answers for a mnemonic -/

namespace Known

/-- `Hex.encode`. -/
def hexEncode (bytes : Bytes) : Bytes :=
  bytes.flatMap fun b => [hexDigit (b / 16), hexDigit (b % 16)]

/-- The value of a hexadecimal digit. -/
def hexValue (c : UInt8) : Option UInt8 :=
  if 48 ≤ c ∧ c ≤ 57 then some (c - 48)
  else if 97 ≤ c ∧ c ≤ 102 then some (c - 87)
  else if 65 ≤ c ∧ c ≤ 70 then some (c - 55)
  else none

/-- `Hex.decode`. -/
def hexDecode : Bytes → Except Throwable Bytes
  | [] => .ok []
  | c₁ :: c₂ :: cs =>
    match hexValue c₁, hexValue c₂ with
    | some high, some low => (hexDecode cs).map ((16 * high + low) :: ·)
    | _, _ => .error (.runtimeException "invalid characters encountered")
  | _ => .error (.runtimeException "invalid characters encountered")

theorem hexValue_hexDigit :
    ∀ n < 16, hexValue (hexDigit (UInt8.ofNat n)) = some (UInt8.ofNat n) := by
  decide +kernel

theorem hexDecode_hexEncode (bytes : Bytes) : hexDecode (hexEncode bytes) = .ok bytes := by
  induction bytes with
  | nil => rfl
  | cons b bytes ih =>
    have hb := b.toNat_lt
    have hhigh : b / 16 = UInt8.ofNat (b.toNat / 16) := by
      rw [← UInt8.toNat_inj]
      simp
      omega
    have hlow : b % 16 = UInt8.ofNat (b.toNat % 16) := by
      rw [← UInt8.toNat_inj]
      simp
      omega
    have hsum : 16 * (b / 16) + b % 16 = b := by
      rw [← UInt8.toNat_inj]
      simp
      omega
    have hdigits : hexEncode (b :: bytes) =
        hexDigit (b / 16) :: hexDigit (b % 16) :: hexEncode bytes := rfl
    rw [hdigits]
    unfold hexDecode
    rw [hhigh, hlow, hexValue_hexDigit _ (by omega), hexValue_hexDigit _ (by omega), ← hhigh,
      ← hlow, ih]
    show Except.ok ((16 * (b / 16) + b % 16) :: bytes) = _
    rw [hsum]

/-- A text that is not UTF-8 is not read. -/
def utf8 (bytes : Bytes) : String := (String.fromUTF8? ⟨bytes.toArray⟩).getD "\uFFFD"

theorem utf8_toByteArray (text : String) : utf8 (WalletUtils.toByteArray text) = text := by
  have hbytes : (⟨(WalletUtils.toByteArray text).toArray⟩ : ByteArray) = text.toByteArray := rfl
  unfold utf8
  rw [hbytes]
  unfold String.fromUTF8?
  rw [dif_pos text.isValidUTF8]
  rfl

/-- `toString(0)` of strings without characters that JSON escapes. -/
def jsonToString (fields : List (String × String)) : String :=
  String.ofList ("\x7b\n".toList ++ [',', '\n'].intercalate (fields.map fun f =>
    ['"'] ++ f.1.toList ++ ['"', ':', ' ', '"'] ++ f.2.toList ++ ['"']) ++ "\n\x7d".toList)

/-- `getString` from such a text. -/
def getString (text name : String) : Except Throwable String :=
  match (text.toList.splitOn '"').dropWhile (· ≠ name.toList) with
  | _ :: _ :: value :: _ => .ok (String.ofList value)
  | _ => .error (.runtimeException s!"No value for {name}")

def words : List String := List.replicate 11 "abandon" ++ ["about"]
def passphrase : String := "TREZOR"

/-- The seed of `words` and `passphrase`. -/
def mnemonicSeed : Bytes :=
  [197, 82, 87, 195, 96, 192, 124, 114, 2, 154, 235, 193, 181, 60, 5, 237, 3, 98, 173, 163, 142,
   173, 62, 62, 158, 250, 55, 8, 229, 52, 149, 83, 31, 9, 166, 152, 117, 153, 209, 130, 100, 193,
   225, 201, 47, 44, 241, 65, 99, 12, 122, 60, 74, 183, 200, 27, 47, 0, 22, 152, 231, 70, 59, 4]

/-- The decoders at `words`. -/
def mnemonicDecoders : SeedDecoders where
  hexDecode := hexDecode
  utf8 := utf8
  getString := getString
  mnemonicCodeToSeed _ _ := .ok mnemonicSeed

/-- A seed file, whose content is the blob that is decoded. -/
def mnemonicFile (version : ℤ) : EncryptedSeed :=
  { version := version, salt := salt, civ := ⟨[], iv, seedMac⟩ }

/-- The encoders at `words`. -/
def mnemonicEncoders : SeedEncoders where
  hexEncode := hexEncode
  jsonToString := jsonToString
  mnemonicCodeToSeedOfNull _ := .ok mnemonicSeed

theorem readsBack_words : WalletUtils.ReadsBack mnemonicDecoders mnemonicEncoders
    (WalletUtils.mnemonicsFields words (some passphrase)) := by
  have hwords : mnemonicDecoders.getString (mnemonicEncoders.jsonToString
      (WalletUtils.mnemonicsFields words (some passphrase))) "words" =
        .ok (String.intercalate " " words) := by decide +kernel
  have hpassphrase : mnemonicDecoders.getString (mnemonicEncoders.jsonToString
      (WalletUtils.mnemonicsFields words (some passphrase))) "passphrase" =
        .ok passphrase := by decide +kernel
  intro field hfield
  rcases List.mem_cons.mp hfield with rfl | hfield
  · exact hwords
  · rw [List.mem_singleton.mp hfield]
    exact hpassphrase

end Known

namespace WalletUtils

theorem mnemonicsRoundTrip_known :
    (encodeMnemonics Known.mnemonicDecoders Known.mnemonicEncoders 2 Known.words
          (some Known.passphrase) >>= decodeV2MnemonicsBlob Known.mnemonicDecoders) =
      .ok (Known.words, Known.passphrase) ∧
    (encodeMnemonics Known.mnemonicDecoders Known.mnemonicEncoders 2 Known.words
          (some Known.passphrase) >>= decodeSeed Known.mnemonicDecoders (Known.mnemonicFile 2)) =
      mnemonicsToSeed Known.mnemonicDecoders Known.words Known.passphrase ∧
    (encodeMnemonics Known.mnemonicDecoders Known.mnemonicEncoders 1 Known.words
          (some Known.passphrase) >>= decodeSeed Known.mnemonicDecoders (Known.mnemonicFile 1)) =
      mnemonicsToSeed Known.mnemonicDecoders Known.words Known.passphrase :=
  mnemonicsRoundTrip ⟨Known.hexDecode_hexEncode, Known.utf8_toByteArray⟩ (by decide)
    (by decide +kernel) Known.readsBack_words rfl rfl

end WalletUtils

end EclairMobile
