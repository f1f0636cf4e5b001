import SkyAutoPlayer.AppCore.CatalogIndex

/-!
# Hexadecimal texts

A digest as text has two lowercase hexadecimal digits for every byte, so the id of a path is well
formed.
-/

namespace SkyAutoPlayer.AppCore

open Foundation

/-- A digit is encoded as one byte, which is a lowercase hexadecimal digit. -/
theorem utf8EncodeChar_hexDigit {value : ℕ} (h : value < 16) :
    (String.utf8EncodeChar (hexDigit value)).length = 1 ∧
      (String.utf8EncodeChar (hexDigit value)).all isLowerHexDigit = true := by
  have hall : ∀ value : Fin 16, (String.utf8EncodeChar (hexDigit value)).length = 1 ∧
      (String.utf8EncodeChar (hexDigit value)).all isLowerHexDigit = true := by decide +kernel
  exact hall ⟨value, h⟩

/-- The encoding of characters that are each one digit is as long as they are, and all digits. -/
theorem flatMap_utf8EncodeChar {chars : List Char}
    (h : ∀ char ∈ chars, (String.utf8EncodeChar char).length = 1 ∧
      (String.utf8EncodeChar char).all isLowerHexDigit = true) :
    (chars.flatMap String.utf8EncodeChar).length = chars.length ∧
      (chars.flatMap String.utf8EncodeChar).all isLowerHexDigit = true := by
  induction chars with
  | nil => exact ⟨rfl, rfl⟩
  | cons char rest ih =>
    obtain ⟨hlength, hdigits⟩ := ih fun other hother => h other (List.mem_cons_of_mem _ hother)
    obtain ⟨hone, hdigit⟩ := h char List.mem_cons_self
    rw [List.flatMap_cons, List.length_append, List.all_append, hone, hdigit, hlength, hdigits]
    exact ⟨Nat.add_comm _ _, rfl⟩

/-- A hexadecimal text has two digits for every byte. -/
theorem hexText_digits {bytes : List UInt8} :
    (hexText bytes).utf8ByteSize = 2 * bytes.length ∧
      (hexText bytes).toUTF8.data.all isLowerHexDigit = true := by
  have hchars : ∀ char ∈ bytes.flatMap fun byte =>
      [hexDigit (byte.toNat / 16), hexDigit (byte.toNat % 16)],
      (String.utf8EncodeChar char).length = 1 ∧
        (String.utf8EncodeChar char).all isLowerHexDigit = true := by
    intro char hmem
    obtain ⟨byte, -, hdigit⟩ := List.mem_flatMap.mp hmem
    have hbound := byte.toNat_lt
    rcases List.mem_pair.mp hdigit with rfl | rfl
    · exact utf8EncodeChar_hexDigit (by omega)
    · exact utf8EncodeChar_hexDigit (Nat.mod_lt _ (by decide))
  obtain ⟨hlength, hdigits⟩ := flatMap_utf8EncodeChar hchars
  have htwice : (bytes.flatMap fun byte =>
      [hexDigit (byte.toNat / 16), hexDigit (byte.toNat % 16)]).length = 2 * bytes.length := by
    induction bytes with
    | nil => rfl
    | cons byte rest ih => simp [List.flatMap_cons]; omega
  constructor
  · rw [← String.size_toByteArray, hexText, String.toByteArray_ofList, List.utf8Encode,
      List.size_toByteArray, hlength, htwice]
  · have hdata : (hexText bytes).toUTF8.data = ((bytes.flatMap fun byte =>
        [hexDigit (byte.toNat / 16), hexDigit (byte.toNat % 16)]).flatMap
          String.utf8EncodeChar).toArray := by
      simp [hexText, List.utf8Encode]
    rw [hdata, List.all_toArray]
    exact hdigits

/-- The id of a path is well formed. -/
theorem isValidId_songIdForCanonicalPath {tables : CatalogTables} {path : String} :
    isValidId (songIdForCanonicalPath tables path) = true := by
  rw [isValidId, songIdForCanonicalPath, hexText_digits.1, hexText_digits.2]
  simp [collectionIdLength]

/-- Every source has a well-formed id. -/
theorem CatalogSourceEntry.isValidId_songId {tables : CatalogTables} {source : CatalogSourceEntry} :
    isValidId (source.songId tables) = true := by
  unfold CatalogSourceEntry.songId
  split
  · exact isValidId_songIdForCanonicalPath
  case h_2 id _ => exact id.valid

end SkyAutoPlayer.AppCore
