/-
# JSON strings read back

A JSON string gives back the text it was made from, and it is written in visible characters
only. A reader of escapes beside the writer shows the first: reading the form of a character
gives that character and leaves what follows, so these forms are a prefix code, and none of
them begins with the quote that ends the string.
-/

import Mathlib.Tactic.Ring
import SexpReader.Text.JsonString
import SexpReader.Proofs.List.Splitting

namespace SexpReader.Text

/-! ## Hexadecimal digits -/

/-- The value of a lower-case hexadecimal digit. -/
def hexValue (c : Char) : Nat :=
  if c.isDigit then c.toNat - '0'.toNat else c.toNat - 'a'.toNat + 10

/-- The number that hexadecimal digits go on with behind the digits of another number. -/
def readHexFrom (front : Nat) (digits : List Char) : Nat :=
  digits.foldl (fun n c => n * 16 + hexValue c) front

theorem hexValue_digitChar : ∀ d < 16, hexValue (Nat.digitChar d) = d := by decide

theorem hexDigits_succ (width n : Nat) :
    hexDigits (width + 1) n = hexDigitAt n width :: hexDigits width n := by
  simp [hexDigits, List.range_succ]

theorem length_hexDigits (width n : Nat) : (hexDigits width n).length = width := by
  simp [hexDigits]

/-- Digits give back the last places of the number. -/
theorem readHexFrom_hexDigits (width n front : Nat) :
    readHexFrom front (hexDigits width n) = front * 16 ^ width + n % 16 ^ width := by
  induction width generalizing front with
  | zero => simp [hexDigits, readHexFrom, Nat.mod_one]
  | succ width ih =>
      have hdigit : hexValue (hexDigitAt n width) = n / 16 ^ width % 16 :=
        hexValue_digitChar _ (Nat.mod_lt _ (by decide))
      have hrest := ih (front * 16 + n / 16 ^ width % 16)
      rw [readHexFrom] at hrest
      rw [hexDigits_succ, readHexFrom, List.foldl_cons, hdigit, hrest, Nat.mod_pow_succ,
        Nat.pow_succ]
      ring

/-! ## Visible characters -/

/-- The characters of ASCII that have a visible form, with the space among them. -/
def IsVisible (c : Char) : Prop :=
  ' ' ≤ c ∧ c ≤ '~'

instance : DecidablePred IsVisible :=
  fun c => inferInstanceAs (Decidable (' ' ≤ c ∧ c ≤ '~'))

theorem isVisible_digitChar : ∀ d < 16, IsVisible (Nat.digitChar d) := by decide

theorem isVisible_of_mem_escapeUnit {unit : Nat} {c : Char} (h : c ∈ escapeUnit unit) :
    IsVisible c := by
  rw [escapeUnit, List.mem_cons, List.mem_cons] at h
  rcases h with rfl | rfl | hdigit
  · decide
  · decide
  · obtain ⟨place, -, rfl⟩ := List.mem_map.1 hdigit
    exact isVisible_digitChar _ (Nat.mod_lt _ (by decide))

/-! ## Reading escapes -/

/-- What a backslash and one character stand for, where these are the whole escape. -/
def shortEscape? : Char → Option Char
  | '"' => some '"'
  | '\\' => some '\\'
  | 'n' => some '\n'
  | 'r' => some '\r'
  | 't' => some '\t'
  | 'b' => some '\x08'
  | 'f' => some '\x0c'
  | _ => none

/-- Read the escape of one UTF-16 unit. -/
def readUnit? : List Char → Option (Nat × List Char)
  | '\\' :: 'u' :: chars => some (readHexFrom 0 (chars.take 4), chars.drop 4)
  | _ => none

/-- Read a character that is written as its UTF-16 units. A first surrogate calls for a second
one. -/
def readUnits? (chars : List Char) : Option (Char × List Char) := do
  let (unit, rest) ← readUnit? chars
  if unit < 0xd800 ∨ 0xdc00 ≤ unit then return (Char.ofNat unit, rest)
  let (second, rest) ← readUnit? rest
  return (Char.ofNat (0x10000 + (unit - 0xd800) * 0x400 + (second - 0xdc00)), rest)

/-- Read one character inside a JSON string. -/
def readJsonChar? : List Char → Option (Char × List Char)
  | [] => none
  | '\\' :: c :: rest =>
      match shortEscape? c with
      | some plain => some (plain, rest)
      | none => readUnits? ('\\' :: c :: rest)
  | c :: rest => some (c, rest)

theorem readUnit?_escapeUnit {unit : Nat} (h : unit < 0x10000) (rest : List Char) :
    readUnit? (escapeUnit unit ++ rest) = some (unit, rest) := by
  have hlength := length_hexDigits 4 unit
  have hunit : readHexFrom 0 (hexDigits 4 unit) = unit := by
    rw [readHexFrom_hexDigits]
    omega
  rw [escapeUnit, List.cons_append, List.cons_append, readUnit?, List.take_left' hlength,
    List.drop_left' hlength, hunit]

theorem readUnits?_single {unit : Nat} (h : unit < 0x10000)
    (hscalar : unit < 0xd800 ∨ 0xdc00 ≤ unit) (rest : List Char) :
    readUnits? (escapeUnit unit ++ rest) = some (Char.ofNat unit, rest) := by
  rw [readUnits?, readUnit?_escapeUnit h]
  exact if_pos hscalar

theorem readUnits?_pair {first second : Nat} (hfirst : first < 0x400) (hsecond : second < 0x400)
    (rest : List Char) :
    readUnits? (escapeUnit (0xd800 + first) ++ (escapeUnit (0xdc00 + second) ++ rest)) =
      some (Char.ofNat (0x10000 + first * 0x400 + second), rest) := by
  have hsurrogate : ¬ (0xd800 + first < 0xd800 ∨ 0xdc00 ≤ 0xd800 + first) := by omega
  have hlow : readUnit? (escapeUnit (0xdc00 + second) ++ rest) = some (0xdc00 + second, rest) :=
    readUnit?_escapeUnit (by omega) rest
  rw [readUnits?, readUnit?_escapeUnit (by omega)]
  simp only [Option.bind_eq_bind, Option.bind_some, if_neg hsurrogate, hlow,
    Nat.add_sub_cancel_left]
  rfl

/-- The units of a character are read back as that character. No character is a surrogate, so a
single unit is never taken for the first of two. -/
theorem readUnits?_units16 (c : Char) (rest : List Char) :
    readUnits? ((units16 c).flatMap escapeUnit ++ rest) = some (c, rest) := by
  have hscalar : c.toNat < 0xd800 ∨ 0xdfff < c.toNat ∧ c.toNat < 0x110000 := c.valid
  have hchar : Char.ofNat c.toNat = c := Char.ofNat_toNat c
  rw [units16]
  generalize c.toNat = n at hscalar hchar
  subst hchar
  by_cases hplane : n < 0x10000
  · rw [if_pos hplane, List.flatMap_singleton]
    exact readUnits?_single hplane (by omega) rest
  · have hboth : 0x10000 + (n - 0x10000) / 0x400 * 0x400 + (n - 0x10000) % 0x400 = n := by omega
    rw [if_neg hplane, List.flatMap_cons, List.flatMap_singleton, List.append_assoc,
      readUnits?_pair (by omega) (by omega), hboth]

theorem readJsonChar?_cons_of_ne {c : Char} (h : c ≠ '\\') (rest : List Char) :
    readJsonChar? (c :: rest) = some (c, rest) := by
  rw [readJsonChar?]
  rintro _ _ rfl _
  exact h rfl

theorem readJsonChar?_units16 (c : Char) (rest : List Char) :
    readJsonChar? ((units16 c).flatMap escapeUnit ++ rest) = some (c, rest) := by
  have hescape : ∃ chars, (units16 c).flatMap escapeUnit = '\\' :: 'u' :: chars := by
    rw [units16]
    split
    · exact ⟨_, rfl⟩
    · exact ⟨_, rfl⟩
  obtain ⟨chars, hchars⟩ := hescape
  have hread := readUnits?_units16 c rest
  rw [hchars] at hread ⊢
  exact hread

/-- A character has a short escape, stands for itself, or is written as its units. -/
theorem jsonChar_cases (c : Char) :
    (∃ letter, shortEscape? letter = some c ∧ IsVisible letter ∧ jsonChar c = ['\\', letter]) ∨
      (c ≠ '\\' ∧ IsVisible c ∧ jsonChar c = [c]) ∨
        jsonChar c = (units16 c).flatMap escapeUnit := by
  by_cases hshort : c ∈ ['"', '\\', '\n', '\r', '\t', '\x08', '\x0c']
  · left
    simp only [List.mem_cons, List.not_mem_nil, or_false] at hshort
    rcases hshort with rfl | rfl | rfl | rfl | rfl | rfl | rfl <;>
      exact ⟨_, rfl, by decide, rfl⟩
  · right
    simp only [List.mem_cons, List.not_mem_nil, or_false, not_or] at hshort
    obtain ⟨hquote, hslash, hline, hreturn, htab, hbackspace, hpage⟩ := hshort
    rw [jsonChar, if_neg hquote, if_neg hslash, if_neg hline, if_neg hreturn, if_neg htab,
      if_neg hbackspace, if_neg hpage]
    by_cases hvisible : ' ' ≤ c ∧ c ≤ '~'
    · exact Or.inl ⟨hslash, hvisible, if_pos hvisible⟩
    · exact Or.inr (if_neg hvisible)

/-- Reading the form of a character gives that character and leaves what follows. -/
theorem readJsonChar?_jsonChar (c : Char) (rest : List Char) :
    readJsonChar? (jsonChar c ++ rest) = some (c, rest) := by
  rcases jsonChar_cases c with ⟨letter, hletter, -, hform⟩ | ⟨hslash, -, hform⟩ | hform
  · rw [hform, List.cons_append, List.cons_append, readJsonChar?, hletter]
    rfl
  · rw [hform]
    exact readJsonChar?_cons_of_ne hslash rest
  · rw [hform]
    exact readJsonChar?_units16 c rest

/-! ## Whole strings -/

theorem toList_jsonString (text : String) :
    (jsonString text).toList = '"' :: text.toList.flatMap jsonChar ++ ['"'] := by
  rw [jsonString, String.toList_ofList]

/-- A JSON string can be told from the text that it stands in front of. -/
theorem isPrefixCode_jsonString : IsPrefixCode fun text => (jsonString text).toList := by
  have hchars : IsPrefixCode jsonChar := IsPrefixCode.of_read readJsonChar?_jsonChar
  have hne (c : Char) : jsonChar c ≠ [] := by
    intro hempty
    have hread := readJsonChar?_jsonChar c []
    rw [hempty] at hread
    cases hread
  have hquote (c : Char) (rest : List Char) : jsonChar c ≠ '"' :: rest := by
    intro hword
    have hread := readJsonChar?_jsonChar c []
    rw [hword, List.cons_append, readJsonChar?_cons_of_ne (by decide)] at hread
    obtain ⟨rfl, -⟩ := Prod.mk.inj (Option.some.inj hread)
    cases hword
  have hbody := hchars.flatMap_concat hne hquote
  intro first second rest more hsame
  simp only [toList_jsonString, List.cons_append] at hsame
  obtain ⟨htext, hrest⟩ := hbody (List.cons.inj hsame).2
  exact ⟨String.toList_injective htext, hrest⟩

theorem isVisible_of_mem_jsonChar {c d : Char} (h : d ∈ jsonChar c) : IsVisible d := by
  rcases jsonChar_cases c with ⟨letter, -, hletter, hform⟩ | ⟨-, hvisible, hform⟩ | hform
  · simp only [hform, List.mem_cons, List.not_mem_nil, or_false] at h
    rcases h with rfl | rfl
    · decide
    · exact hletter
  · rw [hform, List.mem_singleton] at h
    rwa [h]
  · rw [hform] at h
    obtain ⟨unit, -, hd⟩ := List.mem_flatMap.1 h
    exact isVisible_of_mem_escapeUnit hd

/-- A JSON string is written in visible characters only. -/
theorem isVisible_of_mem_jsonString {text : String} {c : Char}
    (h : c ∈ (jsonString text).toList) : IsVisible c := by
  simp only [toList_jsonString, List.mem_append, List.mem_cons, List.not_mem_nil, or_false] at h
  rcases h with (rfl | hinside) | rfl
  · decide
  · obtain ⟨d, -, hd⟩ := List.mem_flatMap.1 hinside
    exact isVisible_of_mem_jsonChar hd
  · decide

end SexpReader.Text
