/-
# Decoding what was encoded

The bytes of a text are decoded as that text. A character of more than one byte is followed
through the decoder by the bits that are read: behind each of its bytes they are the number
of the character without some of its last groups of six bits, and the range that its first
byte leaves for the second one lets that byte pass.
-/

import SexpReader.Text.Utf8

namespace SexpReader.Text.Utf8

theorem encode_eq_flatMap (text : String) :
    encode text = text.toList.flatMap String.utf8EncodeChar := by
  have hbytes : text.toUTF8 = text.toList.utf8Encode := by
    rw [String.utf8Encode_toList, String.toUTF8_eq_toByteArray]
  rw [encode, hbytes, List.utf8Encode, List.toList_data_toByteArray]

/-! ## Bytes behind the first one -/

/-- The byte that carries the last six bits of a number. -/
def continuation (n : Nat) : UInt8 :=
  UInt8.ofNat (n % 0x40 + 0x80)

/-- A number without its last groups of six bits. -/
def dropGroups : Nat → Nat → Nat
  | 0, n => n
  | groups + 1, n => dropGroups groups n / 0x40

/-- The bytes that complete a character. There is one more than the number that is still
owed behind the next one. -/
def continuations : Nat → Nat → List UInt8
  | 0, n => [continuation n]
  | owed + 1, n => continuation (dropGroups (owed + 1) n) :: continuations owed n

theorem dropGroups_two (n : Nat) : dropGroups 2 n = n / 0x1000 :=
  Nat.div_div_eq_div_mul n 0x40 0x40

theorem dropGroups_three (n : Nat) : dropGroups 3 n = n / 0x40000 := by
  rw [dropGroups, dropGroups_two, Nat.div_div_eq_div_mul]

theorem toNat_ofNat_of_lt {n : Nat} (h : n < 0x100) : (UInt8.ofNat n).toNat = n := by
  rw [UInt8.toNat_ofNat', Nat.mod_eq_of_lt h]

theorem toNat_continuation (n : Nat) : (continuation n).toNat = n % 0x40 + 0x80 :=
  toNat_ofNat_of_lt (by omega)

theorem continuation_bounds (n : Nat) : 0x80 ≤ continuation n ∧ continuation n ≤ 0xbf := by
  simp only [UInt8.le_iff_toNat_le, toNat_continuation, UInt8.reduceToNat]
  omega

/-- The byte of the last group gives back the bits that were dropped. -/
theorem bits_continuation (n : Nat) :
    n / 0x40 * 0x40 + (continuation n).toNat % 0x40 = n := by
  rw [toNat_continuation]
  omega

variable {text : String} {offset : Nat}

/-- A character in progress is completed by the bytes that carry the rest of its bits. -/
theorem foldlM_feed_continuations {owed n : Nat} {pending : Pending}
    (howed : pending.owed = owed) (hbits : pending.bits = dropGroups (owed + 1) n)
    (hlow : pending.low ≤ continuation (dropGroups owed n))
    (hhigh : continuation (dropGroups owed n) ≤ pending.high) :
    (continuations owed n).foldlM Decoder.feed ⟨text, offset, some pending⟩ =
      .ok ⟨text.push (Char.ofNat n), offset + (continuations owed n).length, none⟩ := by
  have hnext : pending.bits * 0x40 + (continuation (dropGroups owed n)).toNat % 0x40 =
      dropGroups owed n := by
    rw [hbits, dropGroups, bits_continuation]
  induction owed generalizing pending offset with
  | zero =>
      rw [dropGroups] at hlow hhigh hnext
      simp only [continuations, List.foldlM_cons, List.foldlM_nil, Decoder.feed,
        if_pos (And.intro hlow hhigh), howed, hnext]
      rfl
  | succ owed ih =>
      -- Every byte but the first one of these may be any that carries six bits.
      obtain ⟨hleast, hgreatest⟩ := continuation_bounds (dropGroups owed n)
      simp only [continuations, List.foldlM_cons, Decoder.feed, if_pos (And.intro hlow hhigh),
        howed, hnext]
      rw [List.length_cons, ← Nat.add_assoc, Nat.add_right_comm]
      exact ih rfl rfl hleast hgreatest (bits_continuation (dropGroups owed n))

/-! ## First bytes -/

/-- What the first of two bytes begins. -/
theorem begin?_two (offset : Nat) {n : Nat} (hlow : 0x80 ≤ n) (hhigh : n ≤ 0x7ff) {byte : UInt8}
    (hbyte : byte.toNat = n / 0x40 + 0xc0) :
    begin? offset byte = some ⟨offset, byte, [], n / 0x40, 0, 0x80, 0xbf⟩ := by
  have hrange : 0xc2 ≤ byte ∧ byte ≤ 0xdf := by
    simp only [UInt8.le_iff_toNat_le, hbyte, UInt8.reduceToNat]
    omega
  have hbits : byte.toNat - 0xc0 = n / 0x40 := by omega
  rw [begin?, if_pos hrange, hbits]

/-- What the first of three bytes begins. Its range for the next byte shuts out numbers that
are too small for three bytes, and surrogates. -/
theorem begin?_three (offset : Nat) {n : Nat} (hlow : 0x800 ≤ n) (hhigh : n ≤ 0xffff)
    (hscalar : n < 0xd800 ∨ 0xdfff < n) {byte : UInt8}
    (hbyte : byte.toNat = n / 0x1000 + 0xe0) :
    ∃ low high, begin? offset byte = some ⟨offset, byte, [], n / 0x1000, 1, low, high⟩ ∧
      low ≤ continuation (n / 0x40) ∧ continuation (n / 0x40) ≤ high := by
  have hnext := toNat_continuation (n / 0x40)
  simp only [begin?, UInt8.le_iff_toNat_le, ← UInt8.toNat_inj, hbyte, UInt8.reduceToNat]
  obtain hfirst | hfirst | ⟨hsmallest, hsurrogate⟩ :
      n / 0x1000 = 0 ∨ n / 0x1000 = 0xd ∨ n / 0x1000 ≠ 0 ∧ n / 0x1000 ≠ 0xd := by omega
  · refine ⟨0xa0, 0xbf, ?_⟩
    simp [hfirst, hnext]
    omega
  · refine ⟨0x80, 0x9f, ?_⟩
    simp [hfirst, hnext]
    omega
  · refine ⟨0x80, 0xbf, ?_⟩
    rw [if_neg (by omega), if_neg (by omega), if_neg (by omega), if_pos (by omega)]
    simp [hnext]
    omega

/-- What the first of four bytes begins. Its range for the next byte shuts out numbers that
are too small for four bytes, and those that are too large for a character. -/
theorem begin?_four (offset : Nat) {n : Nat} (hlow : 0x10000 ≤ n) (hhigh : n < 0x110000)
    {byte : UInt8} (hbyte : byte.toNat = n / 0x40000 + 0xf0) :
    ∃ low high, begin? offset byte = some ⟨offset, byte, [], n / 0x40000, 2, low, high⟩ ∧
      low ≤ continuation (n / 0x1000) ∧ continuation (n / 0x1000) ≤ high := by
  have hnext := toNat_continuation (n / 0x1000)
  simp only [begin?, UInt8.le_iff_toNat_le, ← UInt8.toNat_inj, hbyte, UInt8.reduceToNat]
  obtain hfirst | hfirst | ⟨hsmallest, hlargest⟩ :
      n / 0x40000 = 0 ∨ n / 0x40000 = 4 ∨ n / 0x40000 ≠ 0 ∧ n / 0x40000 < 4 := by omega
  · refine ⟨0x90, 0xbf, ?_⟩
    simp [hfirst, hnext]
    omega
  · refine ⟨0x80, 0x8f, ?_⟩
    simp [hfirst, hnext]
    omega
  · refine ⟨0x80, 0xbf, ?_⟩
    rw [if_neg (by omega), if_neg (by omega), if_neg (by omega), if_neg (by omega),
      if_neg (by omega), if_pos (by omega)]
    simp [hnext]
    omega

/-! ## Characters and texts -/

theorem toNat_val_ofNat {n : Nat} (h : n.isValidChar) : (Char.ofNat n).val.toNat = n := by
  rw [Char.ofNat, dif_pos h]
  rfl

theorem utf8EncodeChar_one {n : Nat} (h : n ≤ 0x7f) :
    String.utf8EncodeChar (Char.ofNat n) = [UInt8.ofNat n] := by
  rw [String.utf8EncodeChar, toNat_val_ofNat (Or.inl (by omega))]
  exact if_pos h

theorem utf8EncodeChar_two {n : Nat} (hlow : 0x80 ≤ n) (hhigh : n ≤ 0x7ff) {byte : UInt8}
    (hbyte : byte.toNat = n / 0x40 + 0xc0) :
    String.utf8EncodeChar (Char.ofNat n) = byte :: continuations 0 n := by
  have hfirst : UInt8.ofNat (n / 0x40 % 0x20 + 0xc0) = byte := by
    rw [← UInt8.toNat_inj, toNat_ofNat_of_lt (by omega)]
    omega
  have hone : ¬ n ≤ 0x7f := by omega
  rw [String.utf8EncodeChar, toNat_val_ofNat (Or.inl (by omega))]
  simp only [if_neg hone, if_pos hhigh, hfirst]
  rfl

theorem utf8EncodeChar_three {n : Nat} (hlow : 0x800 ≤ n) (hhigh : n ≤ 0xffff)
    (hscalar : n < 0xd800 ∨ 0xdfff < n) {byte : UInt8}
    (hbyte : byte.toNat = n / 0x1000 + 0xe0) :
    String.utf8EncodeChar (Char.ofNat n) = byte :: continuations 1 n := by
  have hfirst : UInt8.ofNat (n / 0x1000 % 0x10 + 0xe0) = byte := by
    rw [← UInt8.toNat_inj, toNat_ofNat_of_lt (by omega)]
    omega
  have hone : ¬ n ≤ 0x7f := by omega
  have htwo : ¬ n ≤ 0x7ff := by omega
  have hvalid : n.isValidChar := hscalar.imp_right fun habove => ⟨habove, by omega⟩
  rw [String.utf8EncodeChar, toNat_val_ofNat hvalid]
  simp only [if_neg hone, if_neg htwo, if_pos hhigh, hfirst]
  rfl

theorem utf8EncodeChar_four {n : Nat} (hlow : 0x10000 ≤ n) (hhigh : n < 0x110000) {byte : UInt8}
    (hbyte : byte.toNat = n / 0x40000 + 0xf0) :
    String.utf8EncodeChar (Char.ofNat n) = byte :: continuations 2 n := by
  have hfirst : UInt8.ofNat (n / 0x40000 % 8 + 0xf0) = byte := by
    rw [← UInt8.toNat_inj, toNat_ofNat_of_lt (by omega)]
    omega
  have hone : ¬ n ≤ 0x7f := by omega
  have htwo : ¬ n ≤ 0x7ff := by omega
  have hthree : ¬ n ≤ 0xffff := by omega
  rw [String.utf8EncodeChar, toNat_val_ofNat (Or.inr ⟨by omega, hhigh⟩)]
  simp only [if_neg hone, if_neg htwo, if_neg hthree, hfirst]
  rw [continuations, continuations, continuations, dropGroups_two]
  rfl

/-- A first byte and the bytes that it asks for are read as one character. -/
theorem foldlM_feed_first (owed : Nat) {n : Nat} {byte low high : UInt8}
    (hbyte : 0x80 ≤ byte.toNat)
    (hbegin : begin? offset byte =
      some ⟨offset, byte, [], dropGroups (owed + 1) n, owed, low, high⟩)
    (hlow : low ≤ continuation (dropGroups owed n))
    (hhigh : continuation (dropGroups owed n) ≤ high) :
    (byte :: continuations owed n).foldlM Decoder.feed ⟨text, offset, none⟩ =
      .ok ⟨text.push (Char.ofNat n), offset + (byte :: continuations owed n).length, none⟩ := by
  have hascii : ¬ byte < 0x80 := UInt8.not_lt.2 (UInt8.le_iff_toNat_le.2 hbyte)
  simp only [List.foldlM_cons, Decoder.feed, if_neg hascii, hbegin]
  rw [List.length_cons, ← Nat.add_assoc, Nat.add_right_comm]
  exact foldlM_feed_continuations rfl rfl hlow hhigh

/-- The bytes of one character are read as that character. -/
theorem foldlM_feed_utf8EncodeChar (c : Char) :
    (String.utf8EncodeChar c).foldlM Decoder.feed ⟨text, offset, none⟩ =
      .ok ⟨text.push c, offset + (String.utf8EncodeChar c).length, none⟩ := by
  obtain ⟨n, hscalar, rfl⟩ :
      ∃ n, (n < 0xd800 ∨ 0xdfff < n ∧ n < 0x110000) ∧ Char.ofNat n = c :=
    ⟨c.toNat, c.valid, Char.ofNat_toNat c⟩
  by_cases hone : n ≤ 0x7f
  · have hbyte := toNat_ofNat_of_lt (n := n) (by omega)
    have hascii : UInt8.ofNat n < 0x80 := by
      simp only [UInt8.lt_iff_toNat_lt, hbyte, UInt8.reduceToNat]
      omega
    rw [utf8EncodeChar_one hone]
    simp only [List.foldlM_cons, List.foldlM_nil, Decoder.feed, if_pos hascii, hbyte]
    rfl
  by_cases htwo : n ≤ 0x7ff
  · obtain ⟨byte, hbyte⟩ : ∃ byte : UInt8, byte.toNat = n / 0x40 + 0xc0 :=
      ⟨_, toNat_ofNat_of_lt (by omega)⟩
    have hbegin := begin?_two offset (by omega) htwo hbyte
    obtain ⟨hlow, hhigh⟩ := continuation_bounds n
    rw [utf8EncodeChar_two (by omega) htwo hbyte]
    exact foldlM_feed_first 0 (by omega) hbegin hlow hhigh
  by_cases hthree : n ≤ 0xffff
  · obtain ⟨byte, hbyte⟩ : ∃ byte : UInt8, byte.toNat = n / 0x1000 + 0xe0 :=
      ⟨_, toNat_ofNat_of_lt (by omega)⟩
    obtain ⟨low, high, hbegin, hlow, hhigh⟩ :=
      begin?_three offset (by omega) hthree (by omega) hbyte
    rw [utf8EncodeChar_three (by omega) hthree (by omega) hbyte]
    rw [← dropGroups_two] at hbyte hbegin
    exact foldlM_feed_first 1 (by omega) hbegin hlow hhigh
  · obtain ⟨byte, hbyte⟩ : ∃ byte : UInt8, byte.toNat = n / 0x40000 + 0xf0 :=
      ⟨_, toNat_ofNat_of_lt (by omega)⟩
    obtain ⟨low, high, hbegin, hlow, hhigh⟩ :=
      begin?_four offset (by omega) (by omega) hbyte
    rw [utf8EncodeChar_four (by omega) (by omega) hbyte]
    rw [← dropGroups_three] at hbyte hbegin
    rw [← dropGroups_two] at hlow hhigh
    exact foldlM_feed_first 2 (by omega) hbegin hlow hhigh

/-- Characters are read one after another. -/
theorem foldlM_feed_flatMap (chars : List Char) (text : String) (offset : Nat) :
    (chars.flatMap String.utf8EncodeChar).foldlM Decoder.feed ⟨text, offset, none⟩ =
      .ok ⟨text ++ String.ofList chars,
        offset + (chars.flatMap String.utf8EncodeChar).length, none⟩ := by
  induction chars generalizing text offset with
  | nil =>
      rw [List.flatMap_nil, List.foldlM_nil, String.ofList_nil, String.append_empty]
      rfl
  | cons c chars ih =>
      rw [List.flatMap_cons, List.foldlM_append, foldlM_feed_utf8EncodeChar]
      have hrest := ih (text.push c) (offset + (String.utf8EncodeChar c).length)
      rw [String.push_eq_append, String.append_assoc, ← String.ofList_cons] at hrest
      rw [List.length_append, ← Nat.add_assoc]
      exact hrest

/-- The bytes of a text are decoded as that text. -/
theorem decode_encode (text : String) : decode (encode text) = .ok text := by
  rw [encode_eq_flatMap, decode, Decoder.initial, foldlM_feed_flatMap, String.empty_append,
    String.ofList_toList]
  rfl

/-- No two texts have the same bytes. -/
theorem encode_injective : Function.Injective encode := by
  intro first second hsame
  have hdecoded := congrArg decode hsame
  rw [decode_encode, decode_encode] at hdecoded
  exact Except.ok.inj hdecoded

end SexpReader.Text.Utf8
