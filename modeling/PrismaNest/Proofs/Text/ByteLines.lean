import PrismaNest.Text.Lines

/-! Lines counted on bytes.

In UTF-8 the byte of the line feed stands for a line feed and for nothing else. So the lines
of a text can be counted on its bytes.
-/

set_option autoImplicit false

namespace PrismaNest.Text

/-- The byte of a line feed. -/
def feedByte : UInt8 := 0x0A

/-- The number of lines in some bytes, a last one without a line feed included. -/
def byteLineCount (content : ByteArray) : Nat :=
  match content.data.toList.getLast? with
  | none => 0
  | some last => content.data.toList.count feedByte + if last = feedByte then 0 else 1

theorem toUTF8_data (text : String) :
    text.toUTF8.data.toList = text.toList.flatMap String.utf8EncodeChar := by
  rw [String.toUTF8_eq_toByteArray, ← String.utf8Encode_toList, List.utf8Encode, List.data_toByteArray]

-- Bytes from 0x80 on, as all bytes of longer characters are, are no line feeds.
theorem feedByte_ne_ofNat {value : Nat} (high : 0x80 ≤ value) (byte : value < 0x100) :
    feedByte ≠ UInt8.ofNat value := by
  intro same
  have number := congrArg UInt8.toNat same
  rw [UInt8.toNat_ofNat', Nat.mod_eq_of_lt byte] at number
  change 10 = value at number
  omega

theorem encode_feed : String.utf8EncodeChar '\n' = [feedByte] :=
  rfl

theorem feedByte_not_mem_encode {c : Char} (other : c ≠ '\n') :
    feedByte ∉ String.utf8EncodeChar c := by
  rw [String.utf8EncodeChar]
  split
  · rename_i short
    intro member
    -- A single byte is the code point itself.
    have number := congrArg UInt8.toNat (List.mem_singleton.mp member)
    rw [UInt8.toNat_ofNat', Nat.mod_eq_of_lt (by omega)] at number
    exact other (Char.ext (UInt32.toNat_inj.mp number.symm))
  · have continuation (value : Nat) : feedByte ≠ UInt8.ofNat (value % 0x40 + 0x80) :=
      feedByte_ne_ofNat (by omega) (by omega)
    split
    · simp only [List.mem_cons, List.not_mem_nil, or_false, not_or]
      exact ⟨feedByte_ne_ofNat (by omega) (by omega), continuation _⟩
    · split
      · simp only [List.mem_cons, List.not_mem_nil, or_false, not_or]
        exact ⟨feedByte_ne_ofNat (by omega) (by omega), continuation _, continuation _⟩
      · simp only [List.mem_cons, List.not_mem_nil, or_false, not_or]
        exact ⟨feedByte_ne_ofNat (by omega) (by omega), continuation _, continuation _,
          continuation _⟩

theorem count_feedByte_encode (text : List Char) :
    (text.flatMap String.utf8EncodeChar).count feedByte = text.count '\n' := by
  induction text with
  | nil => rfl
  | cons c text ih =>
    rw [List.flatMap_cons, List.count_append, ih]
    by_cases feed : c = '\n'
    · rw [feed, encode_feed, List.count_singleton_self, List.count_cons_self, Nat.add_comm]
    · rw [List.count_eq_zero_of_not_mem (feedByte_not_mem_encode feed),
        List.count_cons_of_ne feed, Nat.zero_add]

theorem getLast?_encode (text : List Char) (c : Char) :
    ∃ last, ((text ++ [c]).flatMap String.utf8EncodeChar).getLast? = some last ∧
      (last = feedByte ↔ c = '\n') := by
  have some_byte : String.utf8EncodeChar c ≠ [] := String.utf8EncodeChar_ne_nil
  refine ⟨(String.utf8EncodeChar c).getLast some_byte, ?_, ?_⟩
  · rw [List.flatMap_append, List.flatMap_singleton, List.getLast?_append,
      List.getLast?_eq_some_getLast some_byte, Option.some_or]
  · constructor
    · intro same
      apply Classical.byContradiction
      intro other
      exact feedByte_not_mem_encode other (same ▸ List.getLast_mem some_byte)
    · rintro rfl
      rfl

theorem byteLineCount_toUTF8 (text : String) : byteLineCount text.toUTF8 = lineCount text := by
  rw [byteLineCount, lineCount, toUTF8_data, count_feedByte_encode]
  rcases List.eq_nil_or_concat text.toList with empty | ⟨start, c, spelled⟩
  · rw [empty]
    rfl
  · obtain ⟨last, found, ends⟩ := getLast?_encode start c
    rw [List.concat_eq_append] at spelled
    rw [spelled, found, List.getLast?_concat]
    simp only [ends]

end PrismaNest.Text
