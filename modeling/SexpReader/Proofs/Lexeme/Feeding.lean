/-
# Feeding a scanner

What a scanner does with one character in each of its modes, and with the pieces that texts
are made of: gaps, bodies of strings, comments and symbols. A symbol in progress is complete
as soon as anything else follows, so a scanner is compared with others only after `close`
has completed that symbol.
-/

import SexpReader.Lexeme.Scanner
import SexpReader.Proofs.Lexeme.Layout

namespace SexpReader

theorem push_append_ofList (text : String) (c : Char) (rest : List Char) :
    text.push c ++ String.ofList rest = text ++ String.ofList (c :: rest) := by
  apply String.toList_injective
  simp

namespace Scanner

variable {position start : Nat} {text : String} {lexemes : Array (Lexeme Nat)}

@[simp]
theorem feedAll_nil (scanner : Scanner) : scanner.feedAll [] = scanner := rfl

@[simp]
theorem feedAll_cons (scanner : Scanner) (c : Char) (chars : List Char) :
    scanner.feedAll (c :: chars) = (scanner.feed c).feedAll chars := rfl

@[simp]
theorem feedAll_append (scanner : Scanner) (first second : List Char) :
    scanner.feedAll (first ++ second) = (scanner.feedAll first).feedAll second :=
  List.foldl_append

/-! ## One character -/

theorem feed_base (c : Char) :
    feed ⟨position, .base, lexemes⟩ c = stepBase ⟨position, .base, lexemes⟩ c := by
  have hpassed := stepBase_position ⟨position, .base, lexemes⟩ c
  simp [feed, step, hpassed]

theorem feed_symbol_of_isSymbolChar {c : Char} (hc : isSymbolChar c = true) :
    feed ⟨position, .symbol start text, lexemes⟩ c =
      ⟨position + 1, .symbol start (text.push c), lexemes⟩ := by
  simp [feed, step, hc, advance]

theorem feed_symbol_of_not_isSymbolChar {c : Char} (hc : isSymbolChar c = false) :
    feed ⟨position, .symbol start text, lexemes⟩ c =
      stepBase ⟨position, .base, lexemes.push ⟨.symbol text, start⟩⟩ c := by
  simp [feed, step, hc]

theorem feed_string (c : Char) :
    feed ⟨position, .string start text, lexemes⟩ c =
      if c = '"' then ⟨position + 1, .base, lexemes.push ⟨.string text, start⟩⟩
      else if c = '\\' then ⟨position + 1, .escape start text, lexemes⟩
      else ⟨position + 1, .string start (text.push c), lexemes⟩ := by
  by_cases hquote : c = '"'
  · simp [feed, step, hquote, complete]
  · by_cases hslash : c = '\\'
    · simp [feed, step, hslash, advance]
    · simp [feed, step, hquote, hslash, advance]

theorem feed_escape (c : Char) :
    feed ⟨position, .escape start text, lexemes⟩ c =
      ⟨position + 1, .string start (text.push c), lexemes⟩ := by
  simp [feed, step, advance]

theorem feed_comment (c : Char) :
    feed ⟨position, .comment, lexemes⟩ c =
      ⟨position + 1, if c = '\n' then .base else .comment, lexemes⟩ := by
  simp [feed, step, advance]

theorem stepBase_openBracket : stepBase ⟨position, .base, lexemes⟩ '(' =
    ⟨position + 1, .base, lexemes.push ⟨.openBracket, position⟩⟩ := rfl

theorem stepBase_closeBracket : stepBase ⟨position, .base, lexemes⟩ ')' =
    ⟨position + 1, .base, lexemes.push ⟨.closeBracket, position⟩⟩ := rfl

theorem stepBase_quote : stepBase ⟨position, .base, lexemes⟩ '"' =
    ⟨position + 1, .string position "", lexemes⟩ := rfl

theorem stepBase_semicolon : stepBase ⟨position, .base, lexemes⟩ ';' =
    ⟨position + 1, .comment, lexemes⟩ := rfl

theorem stepBase_of_isDelimiter {c : Char} (hc : isDelimiter c = true) :
    stepBase ⟨position, .base, lexemes⟩ c = ⟨position + 1, .base, lexemes⟩ := by
  have hother := isStructural_eq_false_of_isDelimiter hc
  simp only [isStructural, Bool.or_eq_false_iff, beq_eq_false_iff_ne] at hother
  obtain ⟨⟨⟨hopen, hclose⟩, hquote⟩, hsemicolon⟩ := hother
  simp [stepBase, advance, hopen, hclose, hquote, hsemicolon, hc]

theorem stepBase_of_isSymbolChar {c : Char} (hc : isSymbolChar c = true) :
    stepBase ⟨position, .base, lexemes⟩ c =
      ⟨position + 1, .symbol position (String.singleton c), lexemes⟩ := by
  simp only [isSymbolChar, isStructural, Bool.and_eq_true, Bool.not_eq_true',
    Bool.or_eq_false_iff, beq_eq_false_iff_ne] at hc
  obtain ⟨⟨⟨⟨hopen, hclose⟩, hquote⟩, hsemicolon⟩, hdelimiter⟩ := hc
  simp [stepBase, advance, hopen, hclose, hquote, hsemicolon, hdelimiter]

/-! ## A symbol in progress -/

/-- Complete a symbol in progress. -/
def close (scanner : Scanner) : Scanner :=
  match scanner.mode with
  | .symbol start text =>
      { scanner with mode := .base, lexemes := scanner.lexemes.push ⟨.symbol text, start⟩ }
  | .base | .string _ _ | .escape _ _ | .comment => scanner

@[simp]
theorem close_base : close ⟨position, .base, lexemes⟩ = ⟨position, .base, lexemes⟩ := rfl

@[simp]
theorem close_symbol : close ⟨position, .symbol start text, lexemes⟩ =
    ⟨position, .base, lexemes.push ⟨.symbol text, start⟩⟩ := rfl

/-- A character that cannot go on with a symbol finds it complete. -/
theorem feed_close (scanner : Scanner) {c : Char} (hc : isSymbolChar c = false) :
    scanner.close.feed c = scanner.feed c := by
  obtain ⟨position, mode, lexemes⟩ := scanner
  cases mode with
  | symbol start text =>
      rw [close_symbol, feed_base, feed_symbol_of_not_isSymbolChar hc]
  | base | string _ _ | escape _ _ | comment => rfl

theorem finish_close (scanner : Scanner) : scanner.close.finish = scanner.finish := by
  obtain ⟨position, mode, lexemes⟩ := scanner
  cases mode <;> rfl

/-- What cannot go on with a symbol is read as if the symbol were complete. -/
theorem close_feedAll_close (scanner : Scanner) {chars : List Char}
    (hhead : ∀ c rest, chars = c :: rest → isSymbolChar c = false) :
    (scanner.close.feedAll chars).close = (scanner.feedAll chars).close := by
  cases chars with
  | nil =>
      obtain ⟨position, mode, lexemes⟩ := scanner
      cases mode <;> rfl
  | cons c rest => rw [feedAll_cons, feed_close scanner (hhead c rest rfl), feedAll_cons]

/-! ## Pieces of a text -/

theorem feedAll_comment {body : List Char} (hbody : '\n' ∉ body) :
    feedAll ⟨position, .comment, lexemes⟩ body = ⟨position + body.length, .comment, lexemes⟩ := by
  induction body generalizing position with
  | nil => rfl
  | cons c body ih =>
      obtain ⟨hc, hrest⟩ := not_or.1 (mt List.mem_cons.2 hbody)
      rw [feedAll_cons, feed_comment, if_neg (Ne.symm hc), ih hrest, List.length_cons,
        Nat.add_assoc, Nat.add_comm 1]

theorem feedAll_gap {gap : List Char} (hgap : Gap gap) :
    feedAll ⟨position, .base, lexemes⟩ gap = ⟨position + gap.length, .base, lexemes⟩ := by
  induction hgap generalizing position with
  | nil => rfl
  | delimiter hc _ ih =>
      rw [feedAll_cons, feed_base, stepBase_of_isDelimiter hc, ih, List.length_cons,
        Nat.add_assoc, Nat.add_comm 1]
  | @comment body rest hbody _ ih =>
      rw [feedAll_append, feedAll_cons, feedAll_cons, feed_base, stepBase_semicolon,
        feedAll_comment hbody, feed_comment, if_pos rfl, ih]
      simp only [List.length_append, List.length_cons]
      congr 1
      omega

theorem feedAll_symbolChars {chars : List Char} (hall : ∀ c ∈ chars, isSymbolChar c = true) :
    feedAll ⟨position, .symbol start text, lexemes⟩ chars =
      ⟨position + chars.length, .symbol start (text ++ String.ofList chars), lexemes⟩ := by
  induction chars generalizing position text with
  | nil => simp
  | cons c chars ih =>
      rw [feedAll_cons, feed_symbol_of_isSymbolChar (hall c (by simp)),
        ih fun d hd => hall d (by simp [hd]), push_append_ofList, List.length_cons,
        Nat.add_assoc, Nat.add_comm 1]

/-- A string takes in the text that its body stands for. -/
theorem feedAll_body {body more : List Char} (hbody : Unescapes body more) :
    feedAll ⟨position, .string start text, lexemes⟩ body =
      ⟨position + body.length, .string start (text ++ String.ofList more), lexemes⟩ := by
  induction hbody generalizing position text with
  | nil => simp
  | plain hquote hslash _ ih =>
      rw [feedAll_cons, feed_string, if_neg hquote, if_neg hslash, ih, push_append_ofList,
        List.length_cons, Nat.add_assoc, Nat.add_comm 1]
  | escaped _ ih =>
      rw [feedAll_cons, feed_string, if_neg (by decide), if_pos rfl, feedAll_cons, feed_escape,
        ih, push_append_ofList, List.length_cons, List.length_cons]
      congr 1
      omega

theorem feedAll_quote_body {body more : List Char} (hbody : Unescapes body more) :
    feedAll ⟨position, .base, lexemes⟩ ('"' :: body) =
      ⟨position + 1 + body.length, .string position (String.ofList more), lexemes⟩ := by
  rw [feedAll_cons, feed_base, stepBase_quote, feedAll_body hbody, String.empty_append]

/-- A string is complete behind its body and one more quote. -/
theorem feedAll_body_quote {body : List Char} (hbody : Unescapes body text.toList) :
    feedAll ⟨position, .string start "", lexemes⟩ (body ++ ['"']) =
      ⟨position + (body ++ ['"']).length, .base, lexemes.push ⟨.string text, start⟩⟩ := by
  rw [feedAll_append, feedAll_body hbody, String.empty_append, String.ofList_toList, feedAll_cons,
    feedAll_nil, feed_string, if_pos rfl, List.length_append, List.length_singleton, Nat.add_assoc]

/-- Outside all tokens the spelling of a token gives that token. A symbol is complete when
the text goes on with anything that cannot belong to it. -/
theorem close_feedAll_spelling_append {token : Token} {spelling rest : List Char}
    (hspelling : Spelling token spelling)
    (hrest : token.isSymbol = true → ∀ c tail, rest = c :: tail → isSymbolChar c = false) :
    (feedAll ⟨position, .base, lexemes⟩ (spelling ++ rest)).close =
      (feedAll ⟨position + spelling.length, .base, lexemes.push ⟨token, position⟩⟩ rest).close := by
  rw [feedAll_append]
  cases hspelling with
  | openBracket => rw [feedAll_cons, feed_base, stepBase_openBracket, feedAll_nil]; rfl
  | closeBracket => rw [feedAll_cons, feed_base, stepBase_closeBracket, feedAll_nil]; rfl
  | @symbol text hne hall =>
      obtain ⟨c, chars, hchars⟩ := List.exists_cons_of_ne_nil hne
      have htext : String.singleton c ++ String.ofList chars = text := by
        apply String.toList_injective
        simp [hchars]
      have hsymbol : feedAll ⟨position, .base, lexemes⟩ text.toList =
          ⟨position + text.toList.length, .symbol position text, lexemes⟩ := by
        rw [hchars] at hall ⊢
        rw [feedAll_cons, feed_base, stepBase_of_isSymbolChar (hall c (by simp)),
          feedAll_symbolChars fun d hd => hall d (by simp [hd]), htext, List.length_cons,
          Nat.add_assoc, Nat.add_comm 1]
      rw [hsymbol, ← close_feedAll_close _ (hrest rfl), close_symbol]
  | @string text body hbody =>
      rw [List.cons_append, feedAll_cons, feed_base, stepBase_quote, feedAll_body_quote hbody,
        List.length_cons, Nat.add_assoc, Nat.add_comm 1]

/-- A layout gives its lexemes, once the last one is complete. -/
theorem close_feedAll_layout {afterSymbol : Bool} {found : List (Lexeme Nat)} {chars : List Char}
    (h : Layout afterSymbol position found chars) :
    (feedAll ⟨position, .base, lexemes⟩ chars).close =
      ⟨position + chars.length, .base, lexemes ++ found.toArray⟩ := by
  induction h generalizing lexemes with
  | nil hgap => simp [feedAll_gap hgap]
  | @cons _ _ token _ gap spelling rest hgap hspelling _ hrest ih =>
      have hhead : token.isSymbol = true →
          ∀ c tail, rest = c :: tail → isSymbolChar c = false := by
        rintro hsymbol c tail rfl
        rw [hsymbol] at hrest
        exact hrest.isSymbolChar_head
      rw [List.append_assoc, feedAll_append, feedAll_gap hgap,
        close_feedAll_spelling_append hspelling hhead, ih]
      simp [Nat.add_assoc]

/-- At the start of a text nothing stands in front of those lexemes. -/
theorem close_feedAll_initial {found : List (Lexeme Nat)} {chars : List Char}
    (h : Layout false 0 found chars) :
    (initial.feedAll chars).close = ⟨chars.length, .base, found.toArray⟩ := by
  have hclosed : (initial.feedAll chars).close =
      ⟨0 + chars.length, .base, #[] ++ found.toArray⟩ := close_feedAll_layout h
  rw [hclosed, Nat.zero_add, Array.empty_append]

end Scanner

end SexpReader
