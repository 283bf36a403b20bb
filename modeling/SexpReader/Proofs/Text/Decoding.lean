/-
# What is decoded was encoded

Bytes are decoded as a text only if they are the bytes of that text, and otherwise the fault
lies behind the longest text in front. A character in progress is followed by what it still
promises: every number that goes on from the bits read so far, with its next byte in range, is
encoded by the bytes read so far and those that carry the rest of it. A decoder is described by
the bytes that it has read behind a given text, so that one induction yields both that a text
is in front of a fault and that no longer one is.
-/

import Mathlib.Order.Bounds.Basic
import SexpReader.Proofs.Text.Utf8

namespace SexpReader.Text.Utf8

theorem encode_push (text : String) (c : Char) :
    encode (text.push c) = encode text ++ String.utf8EncodeChar c := by
  rw [encode_eq_flatMap, encode_eq_flatMap, String.toList_push, List.flatMap_append,
    List.flatMap_singleton]

/-! ## Characters in progress -/

/-- What a first byte can begin, by its bits and the number of bytes that are needed behind the
next one. The range of the next byte is cut where the number would be too small for so many
bytes, a surrogate, or too large for a character. -/
inductive Lead (byte : UInt8) (bits : Nat) : Nat → UInt8 → UInt8 → Prop
  | two : byte.toNat = bits + 0xc0 → 2 ≤ bits → bits < 0x20 → Lead byte bits 0 0x80 0xbf
  | three {low high : UInt8} : byte.toNat = bits + 0xe0 → bits < 0x10 →
      0x80 ≤ low → high ≤ 0xbf → (bits = 0 → 0xa0 ≤ low) → (bits = 0xd → high ≤ 0x9f) →
      Lead byte bits 1 low high
  | four {low high : UInt8} : byte.toNat = bits + 0xf0 → bits ≤ 4 →
      0x80 ≤ low → high ≤ 0xbf → (bits = 0 → 0x90 ≤ low) → (bits = 4 → high ≤ 0x8f) →
      Lead byte bits 2 low high

theorem exists_lead {offset : Nat} {byte : UInt8} {pending : Pending}
    (h : begin? offset byte = some pending) :
    ∃ bits owed low high, pending = ⟨offset, byte, [], bits, owed, low, high⟩ ∧
      Lead byte bits owed low high := by
  unfold begin? at h
  simp only [UInt8.le_iff_toNat_le, ← UInt8.toNat_inj, UInt8.reduceToNat] at h
  split at h
  · cases h
    exact ⟨_, _, _, _, rfl, Lead.two (by omega) (by omega) (by omega)⟩
  split at h
  · cases h
    exact ⟨_, _, _, _, rfl,
      Lead.three (by omega) (by decide) (by decide) (by decide) (by decide) (by decide)⟩
  split at h
  · cases h
    exact ⟨_, _, _, _, rfl,
      Lead.three (by omega) (by decide) (by decide) (by decide) (by decide) (by decide)⟩
  split at h
  · cases h
    exact ⟨_, _, _, _, rfl,
      Lead.three (by omega) (by omega) (by decide) (by decide) (by omega) (by omega)⟩
  split at h
  · cases h
    exact ⟨_, _, _, _, rfl,
      Lead.four (by omega) (by decide) (by decide) (by decide) (by decide) (by decide)⟩
  split at h
  · cases h
    exact ⟨_, _, _, _, rfl,
      Lead.four (by omega) (by omega) (by decide) (by decide) (by omega) (by omega)⟩
  split at h
  · cases h
    exact ⟨_, _, _, _, rfl,
      Lead.four (by omega) (by decide) (by decide) (by decide) (by decide) (by decide)⟩
  · cases h

/-- The bytes of a character in progress. They are the first ones of every character whose
number goes on from the bits and whose next byte is in range. -/
structure Begins (bytes : List UInt8) (bits owed : Nat) (low high : UInt8) : Prop where
  le_low : 0x80 ≤ low
  high_le : high ≤ 0xbf
  encodes : ∀ n, dropGroups (owed + 1) n = bits → low ≤ continuation (dropGroups owed n) →
    continuation (dropGroups owed n) ≤ high →
    String.utf8EncodeChar (Char.ofNat n) = bytes ++ continuations owed n

theorem Lead.begins {byte : UInt8} {bits owed : Nat} {low high : UInt8}
    (h : Lead byte bits owed low high) : Begins [byte] bits owed low high := by
  cases h with
  | two hbyte hleast hmost =>
      refine ⟨by decide, by decide, ?_⟩
      rintro n rfl hlow hhigh
      simp only [dropGroups] at hbyte hleast hmost
      exact utf8EncodeChar_two (by omega) (by omega) hbyte
  | three hbyte hmost hbelow habove hshort hsurrogate =>
      refine ⟨hbelow, habove, ?_⟩
      rintro n rfl hlow hhigh
      rw [dropGroups_two] at hbyte hmost hshort hsurrogate
      simp only [dropGroups, UInt8.le_iff_toNat_le, toNat_continuation, UInt8.reduceToNat] at *
      exact utf8EncodeChar_three (by omega) (by omega) (by omega) hbyte
  | four hbyte hmost hbelow habove hshort hlarge =>
      refine ⟨hbelow, habove, ?_⟩
      rintro n rfl hlow hhigh
      rw [dropGroups_three] at hbyte hmost hshort hlarge
      simp only [dropGroups_two, UInt8.le_iff_toNat_le, toNat_continuation,
        UInt8.reduceToNat] at *
      exact utf8EncodeChar_four (by omega) (by omega) hbyte

/-- A byte in the range of continuations is the one that carries its bits. -/
theorem continuation_eq {byte : UInt8} (hlow : 0x80 ≤ byte) (hhigh : byte ≤ 0xbf) (bits : Nat) :
    continuation (bits * 0x40 + byte.toNat % 0x40) = byte := by
  simp only [UInt8.le_iff_toNat_le, UInt8.reduceToNat] at hlow hhigh
  rw [← UInt8.toNat_inj, toNat_continuation]
  omega

namespace Begins

variable {bytes : List UInt8} {bits : Nat} {low high byte : UInt8}

/-- The last byte in range completes a character. -/
theorem encodes_last (h : Begins bytes bits 0 low high) (hlow : low ≤ byte)
    (hhigh : byte ≤ high) :
    String.utf8EncodeChar (Char.ofNat (bits * 0x40 + byte.toNat % 0x40)) = bytes ++ [byte] := by
  have hbyte :=
    continuation_eq (UInt8.le_trans h.le_low hlow) (UInt8.le_trans hhigh h.high_le) bits
  have hencodes := h.encodes (bits * 0x40 + byte.toNat % 0x40)
  simp only [dropGroups, continuations, hbyte] at hencodes
  exact hencodes (by omega) hlow hhigh

/-- Any other byte in range leaves a character in progress. -/
theorem next {owed : Nat} (h : Begins bytes bits (owed + 1) low high) (hlow : low ≤ byte)
    (hhigh : byte ≤ high) :
    Begins (bytes ++ [byte]) (bits * 0x40 + byte.toNat % 0x40) owed 0x80 0xbf := by
  have hbyte :=
    continuation_eq (UInt8.le_trans h.le_low hlow) (UInt8.le_trans hhigh h.high_le) bits
  refine ⟨by decide, by decide, ?_⟩
  intro n hbits _ _
  have hencodes := h.encodes n
  simp only [continuations, hbits, hbyte] at hencodes
  rw [List.append_assoc]
  refine hencodes ?_ hlow hhigh
  rw [dropGroups, hbits]
  omega

end Begins

/-! ## Decoders -/

/-- Where a fault lies in bytes that start at an offset: right behind the bytes of a text. The
bytes at fault are those that follow. -/
def Fault.Lies (fault : Fault) (start : Nat) (bytes : List UInt8) : Prop :=
  ∃ text, fault.offset = start + (encode text).length ∧
    encode text ++ fault.first :: fault.more <+: bytes

/-- What comes of bytes that start at an offset: something good, or a fault that lies in them. -/
inductive Yields {α : Type} (good : α → Prop) (start : Nat) (bytes : List UInt8) :
    Except Fault α → Prop
  | ok {value : α} : good value → Yields good start bytes (.ok value)
  | error {fault : Fault} : fault.Lies start bytes → Yields good start bytes (.error fault)

theorem Yields.bind {α β : Type} {good : α → Prop} {better : β → Prop} {start : Nat}
    {bytes whole : List UInt8} {result : Except Fault α} {next : α → Except Fault β}
    (h : Yields good start bytes result) (hwhole : bytes <+: whole)
    (hnext : ∀ value, good value → Yields better start whole (next value)) :
    Yields better start whole (result >>= next) := by
  cases h with
  | ok hgood => exact hnext _ hgood
  | error hlies =>
      obtain ⟨text, hoffset, hprefix⟩ := hlies
      exact Yields.error ⟨text, hoffset, hprefix.trans hwhole⟩

namespace Decoder

/-- A decoder that has read some bytes behind a text. They encode what the decoder has added to
that text, and perhaps a part of one more character. -/
inductive Reads (front : String) (start : Nat) (bytes : List UInt8) : Decoder → Prop
  | between {text : String} :
      bytes = encode text → Reads front start bytes ⟨front ++ text, start + bytes.length, none⟩
  | inside {text : String} {first : UInt8} {accepted : List UInt8} {bits owed : Nat}
      {low high : UInt8} :
      bytes = encode text ++ first :: accepted → Begins (first :: accepted) bits owed low high →
      Reads front start bytes ⟨front ++ text, start + bytes.length,
        some ⟨start + (encode text).length, first, accepted, bits, owed, low, high⟩⟩

namespace Reads

variable {front text : String} {start : Nat} {bytes more : List UInt8} {byte : UInt8}
  {decoder : Decoder}

/-- One more byte completes a character. -/
theorem between_concat {c : Char} (hbytes : bytes = encode text ++ more)
    (hc : String.utf8EncodeChar c = more ++ [byte]) :
    Reads front start (bytes ++ [byte])
      ⟨(front ++ text).push c, start + bytes.length + 1, none⟩ := by
  have hwhole : bytes ++ [byte] = encode (text.push c) := by
    rw [encode_push, hc, hbytes, List.append_assoc]
  have hreads : Reads front start (bytes ++ [byte]) _ := between hwhole
  rw [String.push_eq_append, ← String.append_assoc, ← String.push_eq_append,
    List.length_append] at hreads
  exact hreads

/-- One more byte leaves a character in progress. -/
theorem inside_concat {first : UInt8} {accepted : List UInt8} {bits owed : Nat}
    {low high : UInt8} (hbytes : bytes = encode text ++ more)
    (hmore : more ++ [byte] = first :: accepted)
    (hbegins : Begins (first :: accepted) bits owed low high) :
    Reads front start (bytes ++ [byte]) ⟨front ++ text, start + bytes.length + 1,
      some ⟨start + (encode text).length, first, accepted, bits, owed, low, high⟩⟩ := by
  have hwhole : bytes ++ [byte] = encode text ++ first :: accepted := by
    rw [hbytes, List.append_assoc, hmore]
  have hreads : Reads front start (bytes ++ [byte]) _ := inside hwhole hbegins
  rw [List.length_append] at hreads
  exact hreads

theorem feed (h : Reads front start bytes decoder) (byte : UInt8) :
    Yields (Reads front start (bytes ++ [byte])) start (bytes ++ [byte])
      (decoder.feed byte) := by
  cases h with
  | @between text hbytes =>
      subst hbytes
      have hnone : encode text = encode text ++ [] := (List.append_nil _).symm
      by_cases hascii : byte < 0x80
      · have hone : byte.toNat ≤ 0x7f := by
          simp only [UInt8.lt_iff_toNat_lt, UInt8.reduceToNat] at hascii
          omega
        have hc : String.utf8EncodeChar (Char.ofNat byte.toNat) = [] ++ [byte] := by
          rw [utf8EncodeChar_one hone, UInt8.ofNat_toNat, List.nil_append]
        simp only [Decoder.feed, if_pos hascii]
        exact Yields.ok (between_concat hnone hc)
      · simp only [Decoder.feed, if_neg hascii]
        split
        · next hbegin =>
            obtain ⟨bits, owed, low, high, rfl, hlead⟩ := exists_lead hbegin
            exact Yields.ok (inside_concat hnone rfl hlead.begins)
        · exact Yields.error ⟨text, rfl, List.prefix_rfl⟩
  | @inside text first accepted bits owed low high hbytes hbegins =>
      by_cases hrange : low ≤ byte ∧ byte ≤ high
      · simp only [Decoder.feed, if_pos hrange]
        obtain ⟨hlow, hhigh⟩ := hrange
        cases owed with
        | zero => exact Yields.ok (between_concat hbytes (hbegins.encodes_last hlow hhigh))
        | succ owed => exact Yields.ok (inside_concat hbytes rfl (hbegins.next hlow hhigh))
      · -- The byte that is out of range is not counted among the ones at fault.
        simp only [Decoder.feed, if_neg hrange]
        refine Yields.error ⟨text, rfl, ?_⟩
        rw [hbytes]
        exact List.prefix_append _ _

theorem foldlM_feed (h : Reads front start bytes decoder) (rest : List UInt8) :
    Yields (Reads front start (bytes ++ rest)) start (bytes ++ rest)
      (rest.foldlM Decoder.feed decoder) := by
  induction rest generalizing bytes decoder with
  | nil =>
      rw [List.append_nil]
      exact Yields.ok h
  | cons byte rest ih =>
      rw [List.foldlM_cons, List.append_cons]
      exact (h.feed byte).bind (List.prefix_append _ rest) fun _ hnext => ih hnext

theorem finish (h : Reads front start bytes decoder) :
    Yields (fun text => ∃ more, text = front ++ more ∧ bytes = encode more) start bytes
      decoder.finish := by
  cases h with
  | between hbytes => exact Yields.ok ⟨_, rfl, hbytes⟩
  | inside hbytes _ =>
      refine Yields.error ⟨_, rfl, ?_⟩
      rw [hbytes]
      exact List.prefix_rfl

end Reads

end Decoder

/-! ## Decoding -/

/-- Bytes behind those of a text are read as more text, or a fault lies in them. -/
theorem decode_append (front : String) (rest : List UInt8) :
    Yields (fun text => ∃ more, text = front ++ more ∧ rest = encode more)
      (encode front).length rest (decode (encode front ++ rest)) := by
  have hfront : (encode front).foldlM Decoder.feed Decoder.initial =
      .ok ⟨front, (encode front).length, none⟩ := by
    rw [encode_eq_flatMap, Decoder.initial, foldlM_feed_flatMap, String.empty_append,
      String.ofList_toList, Nat.zero_add]
  have hstart : Decoder.Reads front (encode front).length []
      ⟨front, (encode front).length, none⟩ := by
    have hreads : Decoder.Reads front (encode front).length [] ⟨front ++ "", _, none⟩ :=
      Decoder.Reads.between rfl
    rw [String.append_empty] at hreads
    exact hreads
  rw [decode, List.foldlM_append, hfront]
  exact (hstart.foldlM_feed rest).bind List.prefix_rfl fun _ hlast => hlast.finish

/-- Bytes are decoded as a text exactly when they are the bytes of that text. -/
theorem decode_eq_ok_iff {bytes : List UInt8} {text : String} :
    decode bytes = .ok text ↔ bytes = encode text := by
  constructor
  · intro h
    have hyields : Yields _ _ bytes (decode bytes) := decode_append "" bytes
    rw [h] at hyields
    cases hyields with
    | ok hgood =>
        obtain ⟨more, rfl, hmore⟩ := hgood
        rw [String.empty_append]
        exact hmore
  · rintro rfl
    exact decode_encode text

/-- The lengths of the prefixes that are the bytes of a text. -/
def textLengths (bytes : List UInt8) : Set Nat :=
  {n | ∃ text, encode text <+: bytes ∧ (encode text).length = n}

/-- The fault of bytes lies behind every text in front of them. -/
theorem Fault.lies_of_decode {bytes : List UInt8} {fault : Fault}
    (h : decode bytes = .error fault) (front : String) {rest : List UInt8}
    (hbytes : encode front ++ rest = bytes) : fault.Lies (encode front).length rest := by
  have hyields := decode_append front rest
  rw [hbytes, h] at hyields
  cases hyields with
  | error hlies => exact hlies

/-- The offset of a fault is the length of the longest text in front. -/
theorem Fault.isGreatest_offset {bytes : List UInt8} {fault : Fault}
    (h : decode bytes = .error fault) : IsGreatest (textLengths bytes) fault.offset := by
  constructor
  · obtain ⟨text, hoffset, hprefix⟩ := Fault.lies_of_decode h "" rfl
    refine ⟨text, (List.prefix_append _ _).trans hprefix, ?_⟩
    exact (hoffset.trans (Nat.zero_add _)).symm
  · rintro n ⟨text, ⟨rest, hrest⟩, rfl⟩
    obtain ⟨more, hoffset, -⟩ := Fault.lies_of_decode h text hrest
    rw [hoffset]
    exact Nat.le_add_right _ _

/-- What is told of the bytes at an offset. A single byte is shown as it stands there, and of
several the last one is located, too. -/
inductive Complaint (bytes : List UInt8) (offset : Nat) : String → Prop
  | one {byte : UInt8} (cause : Cause) : bytes[offset]? = some byte →
      Complaint bytes offset ("'utf-8' codec can't decode " ++
        ("byte 0x" ++ String.ofList (hexDigits 2 byte.toNat) ++ " in position " ++
          toString offset) ++ ": " ++ cause.message)
  | several {last : Nat} (cause : Cause) : offset < last → last < bytes.length →
      Complaint bytes offset ("'utf-8' codec can't decode " ++
        ("bytes in position " ++ toString offset ++ "-" ++ toString last) ++ ": " ++
        cause.message)

theorem Fault.complaint_message {bytes : List UInt8} {fault : Fault}
    (h : decode bytes = .error fault) : Complaint bytes fault.offset fault.message := by
  obtain ⟨text, hoffset, rest, hrest⟩ := Fault.lies_of_decode h "" rfl
  obtain ⟨offset, first, more, cause⟩ := fault
  obtain rfl : offset = (encode text).length := hoffset.trans (Nat.zero_add _)
  rw [List.append_assoc] at hrest
  rw [← hrest]
  cases more with
  | nil => exact Complaint.one cause (by simp)
  | cons next more =>
      refine Complaint.several cause (Nat.lt_add_of_pos_right (Nat.succ_pos _)) ?_
      simp only [List.length_append, List.length_cons]
      omega

end SexpReader.Text.Utf8
