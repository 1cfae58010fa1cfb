import Verdict.Text.Percent
/-!
Percent-encoded text reads back as the text that was encoded, and holds nothing but unreserved characters and
percent signs.
-/

namespace Verdict.Text

theorem hexValue?_hexDigit : ∀ value < 16, hexValue? (hexDigit value) = some value := by
  decide

theorem isUnreserved_hexDigit : ∀ value < 16, isUnreserved (hexDigit value) = true := by
  decide

theorem percentDecoded_percentByte (byte : UInt8) (rest : List Char) :
    percentDecoded (percentByte byte ++ rest) = byte :: percentDecoded rest := by
  have bound : byte.toNat < 256 := byte.toNat_lt
  have high := hexValue?_hexDigit (byte.toNat / 16) (by omega)
  have low := hexValue?_hexDigit (byte.toNat % 16) (by omega)
  have whole : 16 * (byte.toNat / 16) + byte.toNat % 16 = byte.toNat := by omega
  simp only [percentByte, List.cons_append, List.nil_append, percentDecoded, high, low, whole,
    UInt8.ofNat_toNat]

theorem percentDecoded_percentBytes (bytes : List UInt8) (rest : List Char) :
    percentDecoded (bytes.flatMap percentByte ++ rest) = bytes ++ percentDecoded rest := by
  induction bytes with
  | nil => rfl
  | cons byte bytes ih =>
    rw [List.flatMap_cons, List.append_assoc, percentDecoded_percentByte, ih, List.cons_append]

theorem percentDecoded_cons {character : Char} (plain : character ≠ '%') (rest : List Char) :
    percentDecoded (character :: rest) = String.utf8EncodeChar character ++ percentDecoded rest := by
  rw [percentDecoded]
  rintro high low others rfl
  exact absurd rfl plain

theorem percentDecoded_percentEncoded (text : String) :
    percentDecoded (percentEncoded text) = text.toList.flatMap String.utf8EncodeChar := by
  unfold percentEncoded
  induction text.toList with
  | nil => rfl
  | cons character rest ih =>
    simp only [List.flatMap_cons]
    split
    next unreserved =>
      have plain : character ≠ '%' := by
        rintro rfl
        exact absurd unreserved (by decide)
      rw [List.singleton_append, percentDecoded_cons plain, ih]
    next => rw [percentDecoded_percentBytes, ih]

theorem ofBytes?_utf8 (text : String) : ofBytes? (text.toList.flatMap String.utf8EncodeChar) = some text := by
  have bytes : (⟨(text.toList.flatMap String.utf8EncodeChar).toArray⟩ : ByteArray) = text.toByteArray := by
    rw [← List.data_toByteArray]
    exact String.utf8Encode_toList
  rw [ofBytes?, bytes, String.fromUTF8?, dif_pos text.isValidUTF8]
  rfl

/-- Percent-encoded text reads back. -/
theorem ofBytes?_percentEncoded (text : String) :
    ofBytes? (percentDecoded (percentEncoded text)) = some text := by
  rw [percentDecoded_percentEncoded, ofBytes?_utf8]

theorem percentEncoded_inj {first second : String} :
    percentEncoded first = percentEncoded second ↔ first = second := by
  constructor
  · intro same
    have read := ofBytes?_percentEncoded first
    rw [same, ofBytes?_percentEncoded] at read
    exact (Option.some.inj read).symm
  · exact congrArg percentEncoded

theorem unreserved_or_percent_of_mem {character : Char} {text : String}
    (member : character ∈ percentEncoded text) : isUnreserved character = true ∨ character = '%' := by
  obtain ⟨source, _, written⟩ := List.mem_flatMap.1 member
  split at written
  next unreserved =>
    rw [List.mem_singleton.1 written]
    exact .inl unreserved
  next =>
    obtain ⟨byte, _, written⟩ := List.mem_flatMap.1 written
    have bound : byte.toNat < 256 := byte.toNat_lt
    simp only [percentByte, List.mem_cons, List.not_mem_nil, or_false] at written
    rcases written with rfl | rfl | rfl
    · exact .inr rfl
    · exact .inl (isUnreserved_hexDigit _ (by omega))
    · exact .inl (isUnreserved_hexDigit _ (by omega))

end Verdict.Text
