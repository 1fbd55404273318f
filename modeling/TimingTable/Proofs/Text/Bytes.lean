import Mathlib.Data.List.Basic

/-!
# Bytes of texts

Some bytes are those of a text or of none (`fromUTF8?_eq_some_iff`, `fromUTF8?_eq_none_iff`). Where texts
stand before and after them, it still depends on these bytes alone whether all of it is a text
(`isText_toUTF8_append_iff`, `isText_append_toUTF8_iff`): the bytes of the text before end where a
character ends, and those of the text after begin with the first byte of one.
-/

namespace TimingTable.Text
variable {bytes : ByteArray} {text : String}

/-- The bytes are those of a text. -/
def IsText (bytes : ByteArray) : Prop := ∃ text : String, bytes = text.toUTF8

theorem isText_iff_isValidUTF8 : IsText bytes ↔ bytes.IsValidUTF8 := by
  constructor
  · rintro ⟨text, rfl⟩
    exact text.isValidUTF8
  · exact fun h => ⟨.ofByteArray bytes h, rfl⟩

/-- Text that was written as UTF-8 is read back. -/
theorem fromUTF8?_toUTF8 (text : String) : String.fromUTF8? text.toUTF8 = some text :=
  dif_pos text.isValidUTF8

theorem fromUTF8?_eq_some_iff : String.fromUTF8? bytes = some text ↔ bytes = text.toUTF8 := by
  constructor
  · intro h
    by_cases hvalid : bytes.IsValidUTF8
    · have hsome : String.fromUTF8? bytes = some (.ofByteArray bytes hvalid) := dif_pos hvalid
      rw [hsome, Option.some.injEq] at h
      rw [← h]
      rfl
    · have hnone : String.fromUTF8? bytes = none := dif_neg hvalid
      rw [hnone] at h
      cases h
  · rintro rfl
    exact fromUTF8?_toUTF8 text

theorem fromUTF8?_eq_none_iff : String.fromUTF8? bytes = none ↔ ¬ IsText bytes := by
  simp only [Option.eq_none_iff_forall_ne_some, ne_eq, fromUTF8?_eq_some_iff, IsText, not_exists]

theorem isText_toUTF8_append_iff (before : String) (bytes : ByteArray) :
    IsText (before.toUTF8 ++ bytes) ↔ IsText bytes := by
  constructor
  · rintro ⟨text, h⟩
    have hencode : before.toList.utf8Encode ++ bytes = text.toList.utf8Encode := by
      simpa [← String.toByteArray_ofList] using h
    -- the characters of the text before come first, and the bytes are those of the others
    obtain ⟨rest, hrest⟩ := List.isPrefix_of_utf8Encode_append_eq_utf8Encode bytes hencode
    rw [← hrest, List.utf8Encode_append, ByteArray.append_right_inj] at hencode
    exact ⟨.ofList rest, hencode⟩
  · rintro ⟨text, rfl⟩
    exact ⟨before ++ text, String.toByteArray_append.symm⟩

/-- The first byte of a text that stands after some bytes begins a character. -/
theorem isUTF8FirstByte_getElem_size {whole : ByteArray} {after : String}
    (h : whole = bytes ++ after.toUTF8) (hsize : bytes.size < whole.size) :
    whole[bytes.size].IsUTF8FirstByte := by
  subst h
  have hafter : 0 < after.toUTF8.size := by
    rw [ByteArray.size_append] at hsize
    omega
  rw [ByteArray.getElem_append_right (Nat.le_refl _)]
  simp only [Nat.sub_self]
  exact after.isValidUTF8.isUTF8FirstByte_getElem_zero hafter

theorem isText_append_toUTF8_iff (bytes : ByteArray) (after : String) :
    IsText (bytes ++ after.toUTF8) ↔ IsText bytes := by
  constructor
  · rintro ⟨text, h⟩
    have hsize : text.utf8ByteSize = bytes.size + after.utf8ByteSize := by
      rw [← String.size_toByteArray, ← String.size_toByteArray, ← ByteArray.size_append]
      exact (congrArg ByteArray.size h).symm
    -- the bytes end at a position of the whole text: at its end, or where a character begins
    have hvalid : String.Pos.Raw.IsValid text ⟨bytes.size⟩ := by
      rw [String.Pos.Raw.isValid_iff_isUTF8FirstByte, String.Pos.Raw.ext_iff, String.byteIdx_rawEndPos]
      rcases Nat.eq_zero_or_pos after.utf8ByteSize with hafter | hafter
      · have hend : bytes.size = text.utf8ByteSize := by omega
        exact .inl hend
      · have hlt : bytes.size < text.utf8ByteSize := by omega
        exact .inr ⟨hlt, isUTF8FirstByte_getElem_size h.symm hlt⟩
    rw [String.Pos.Raw.isValid_iff_isValidUTF8_extract_zero] at hvalid
    have hbytes : text.toByteArray.extract 0 bytes.size = bytes := by
      rw [show text.toByteArray = bytes ++ after.toUTF8 from h.symm,
        ByteArray.extract_append_eq_left rfl]
    rw [isText_iff_isValidUTF8, ← hbytes]
    exact hvalid.2
  · rintro ⟨text, rfl⟩
    exact ⟨text ++ after, String.toByteArray_append.symm⟩

end TimingTable.Text
