/-
# Quoted text inside a text

What a quoted text is where other text stands around it. Behind a text that could end there,
and not inside a comment, the opening quote begins a string. Every character that could end the
string has a backslash in front of it, so the string takes in the whole text and ends with the
closing quote. What follows is read as at the start of a text.
-/

import SexpReader.Proofs.Lexeme.Relocation
import SexpReader.Proofs.Text.Quoting

namespace SexpReader

namespace Scanner

variable {scanner : Scanner} {lexemes : List (Lexeme Nat)}

/-- A quote begins a string, unless it stands in a string or a comment. A symbol in front of it
is complete. -/
theorem feed_quote (h : scanner.finish = .ok lexemes) (hcomment : scanner.mode ≠ .comment) :
    scanner.feed '"' =
      ⟨scanner.position + 1, .string scanner.position "", lexemes.toArray⟩ := by
  obtain ⟨position, mode, found⟩ := scanner
  cases mode with
  | comment => exact absurd rfl hcomment
  | string _ _ | escape _ _ => cases h
  | base =>
      cases h
      rw [feed_base, stepBase_quote]
  | symbol start text =>
      cases h
      rw [feed_symbol_of_not_isSymbolChar (by decide), stepBase_quote]

/-- Every spelling of a string is read to its end, and leaves the scanner outside all tokens. -/
theorem feedAll_spelling_string (h : scanner.finish = .ok lexemes)
    (hcomment : scanner.mode ≠ .comment) {body : List Char} {text : String}
    (hbody : Unescapes body text.toList) :
    scanner.feedAll ('"' :: body ++ ['"']) =
      initial.behind (scanner.position + ('"' :: body ++ ['"']).length)
        (lexemes ++ [⟨.string text, scanner.position⟩]) := by
  rw [initial_behind, List.cons_append, feedAll_cons, feed_quote h hcomment,
    feedAll_body_quote hbody, List.push_toArray, List.length_cons, Nat.add_assoc, Nat.add_comm 1]

/-- A string that has read a body, and perhaps one more backslash, stands open. -/
theorem exists_error_of_string {position start : Nat} {text : String}
    {found : Array (Lexeme Nat)} {front body kept : List Char} (hbody : Unescapes body kept)
    (hfront : front = body ∨ front = body ++ ['\\']) :
    ∃ error, (feedAll ⟨position, .string start text, found⟩ front).finish = .error error ∧
      error.position = start := by
  rcases hfront with rfl | rfl
  · rw [feedAll_body hbody]
    exact ⟨_, rfl, rfl⟩
  · rw [feedAll_append, feedAll_body hbody, feedAll_cons, feed_string, if_neg (by decide),
      if_pos rfl]
    exact ⟨_, rfl, rfl⟩

end Scanner

/-- What a piece of text is behind a text that has the given lexemes: one string, which begins
with the piece and ends with it. -/
structure StandsAsString (before : String) (lexemes : List (Lexeme Nat)) (piece text : String) :
    Prop where
  /-- What follows is cut as it is cut alone, further on. -/
  tokenize_around (after : String) :
    tokenize (before ++ piece ++ after) =
      ((tokenize after).map fun later =>
        lexemes ++ ⟨.string text, before.length⟩ ::
          later.map (Lexeme.map (· + (before.length + piece.length)))).mapError
        (LexError.map (· + (before.length + piece.length)))
  /-- The piece neither repairs nor spoils what follows. -/
  succeeds_iff (after : String) :
    (∃ whole, tokenize (before ++ piece ++ after) = .ok whole) ↔
      ∃ later, tokenize after = .ok later
  /-- As long as some of the piece is missing, the string that begins with it stands open. -/
  stands_open {front rest : String} :
    piece = front ++ rest → front ≠ "" → rest ≠ "" →
      ∃ error, tokenize (before ++ front) = .error error ∧ error.position = before.length

section Surroundings

variable {before piece text : String} {lexemes : List (Lexeme Nat)} {body : List Char}

theorem tokenize_append_string_append (h : tokenize before = .ok lexemes)
    (hcomment : (Scanner.initial.feedAll before.toList).mode ≠ .comment)
    (hpiece : piece.toList = '"' :: body ++ ['"']) (hbody : Unescapes body text.toList)
    (after : String) :
    tokenize (before ++ piece ++ after) =
      ((tokenize after).map fun later =>
        lexemes ++ ⟨.string text, before.length⟩ ::
          later.map (Lexeme.map (· + (before.length + piece.length)))).mapError
        (LexError.map (· + (before.length + piece.length))) := by
  have hread := Scanner.feedAll_spelling_string h hcomment hbody
  rw [← hpiece, String.length_toList, Scanner.position_feedAll_initial] at hread
  rw [tokenize, String.toList_append, String.toList_append, Scanner.feedAll_append,
    Scanner.feedAll_append, hread, Scanner.finish_feedAll_behind]
  simp only [List.append_assoc, List.singleton_append]

/-- A proper front of a spelling is the quote and a front of the body. -/
theorem exists_error_of_front (h : tokenize before = .ok lexemes)
    (hcomment : (Scanner.initial.feedAll before.toList).mode ≠ .comment)
    (hbody : Unescapes body text.toList) {front rest : List Char}
    (hwhole : '"' :: body ++ ['"'] = front ++ rest) (hfront : front ≠ []) (hrest : rest ≠ []) :
    ∃ error, tokenize (before ++ String.ofList front) = .error error ∧
      error.position = before.length := by
  obtain ⟨c, front, rfl⟩ := List.exists_cons_of_ne_nil hfront
  obtain ⟨rest, d, rfl⟩ := List.eq_nil_or_concat rest |>.resolve_left hrest
  rw [List.concat_eq_append, List.cons_append, List.cons_append, ← List.append_assoc] at hwhole
  obtain ⟨rfl, hinside⟩ := List.cons.inj hwhole
  obtain ⟨rfl, -⟩ := List.append_inj' hinside rfl
  obtain ⟨part, kept, hpart, hends⟩ := hbody.exists_of_append
  rw [tokenize, String.toList_append, String.toList_ofList, Scanner.feedAll_append,
    Scanner.feedAll_cons, Scanner.feed_quote h hcomment, Scanner.position_feedAll_initial]
  exact Scanner.exists_error_of_string hpart hends

/-- Every spelling of a string stands as that string behind any text that could end there and
does not end inside a comment. -/
theorem standsAsString_of_unescapes (h : tokenize before = .ok lexemes)
    (hcomment : (Scanner.initial.feedAll before.toList).mode ≠ .comment)
    (hpiece : piece.toList = '"' :: body ++ ['"']) (hbody : Unescapes body text.toList) :
    StandsAsString before lexemes piece text where
  tokenize_around := tokenize_append_string_append h hcomment hpiece hbody
  succeeds_iff after := by
    rw [tokenize_append_string_append h hcomment hpiece hbody]
    cases tokenize after with
    | ok later => exact iff_of_true ⟨_, rfl⟩ ⟨_, rfl⟩
    | error error => exact iff_of_false nofun nofun
  stands_open {front rest} hwhole hfront hrest := by
    have hchars : '"' :: body ++ ['"'] = front.toList ++ rest.toList := by
      rw [← hpiece, hwhole, String.toList_append]
    have hopen := exists_error_of_front h hcomment hbody hchars (by simpa using hfront)
      (by simpa using hrest)
    rwa [String.ofList_toList] at hopen

end Surroundings

theorem standsAsString_quote {before : String} {lexemes : List (Lexeme Nat)}
    (h : tokenize before = .ok lexemes)
    (hcomment : (Scanner.initial.feedAll before.toList).mode ≠ .comment) (text : String) :
    StandsAsString before lexemes (Text.quote text) text :=
  standsAsString_of_unescapes h hcomment (Text.toList_quote text)
    (Text.unescapes_flatMap_escapeChar text.toList)

/-- A quoted text alone is that text as a string, so it tells which text was quoted. -/
theorem Text.quote_injective : Function.Injective Text.quote := by
  have hread (text : String) : tokenize (Text.quote text) = .ok [⟨.string text, 0⟩] := by
    have hempty : tokenize "" = .ok [] := rfl
    have haround := (standsAsString_quote hempty nofun text).tokenize_around ""
    rw [String.empty_append, String.append_empty] at haround
    exact haround
  intro first second hquote
  have hsame := hread first
  rw [hquote, hread second] at hsame
  injection hsame with hlexemes
  simpa using hlexemes.symm

/-- The two passes of quoting put one backslash before each character that needs one. Behind any
text that could end there and does not end inside a comment, a quoted text is one string with
the given text: it ends with its last character and no earlier, and what follows is cut, or
refused, as it is alone. So no two texts have the same quoted form. -/
theorem quote_eq_flatMap_and_standsAsString (text : String) :
    Text.replaceChar '"' ['\\', '"'] (Text.replaceChar '\\' ['\\', '\\'] text.toList) =
        text.toList.flatMap Text.escapeChar ∧
      (Text.quote text).toList = '"' :: text.toList.flatMap Text.escapeChar ++ ['"'] ∧
      (∀ before lexemes, tokenize before = .ok lexemes →
        (Scanner.initial.feedAll before.toList).mode ≠ .comment →
        StandsAsString before lexemes (Text.quote text) text) ∧
      ∀ other, Text.quote other = Text.quote text → other = text := by
  refine ⟨Text.replaceChar_replaceChar_eq_flatMap text.toList, Text.toList_quote text, ?_, ?_⟩
  · intro before lexemes h hcomment
    exact standsAsString_quote h hcomment text
  · intro other hquote
    exact Text.quote_injective hquote

/-- Backslashes next to a quote and at the end of a text, behind a symbol in progress. -/
theorem quote_standsAsString_behind_symbol :
    tokenize "(a" = .ok [⟨.openBracket, 0⟩, ⟨.symbol "a", 1⟩] ∧
      (Scanner.initial.feedAll "(a".toList).mode ≠ .comment ∧
      Text.quote "\\\"\\" = "\"\\\\\\\"\\\\\"" ∧
      tokenize ("(a" ++ Text.quote "\\\"\\" ++ "b)") =
        .ok [⟨.openBracket, 0⟩, ⟨.symbol "a", 1⟩, ⟨.string "\\\"\\", 2⟩, ⟨.symbol "b", 10⟩,
          ⟨.closeBracket, 11⟩] ∧
      tokenize ("(a" ++ Text.quote "\\\"\\" ++ "\"c") = .error (.unterminatedString "c" 10) ∧
      ∃ error, tokenize ("(a" ++ "\"\\\\\\\"\\\\") = .error error ∧ error.position = 2 := by
  have hfirst : tokenize "(a" = .ok [⟨.openBracket, 0⟩, ⟨.symbol "a", 1⟩] := rfl
  have hmode : (Scanner.initial.feedAll "(a".toList).mode ≠ .comment := by decide
  have hquote : Text.quote "\\\"\\" = "\"\\\\\\\"\\\\\"" := rfl
  obtain ⟨-, -, hstands, -⟩ := quote_eq_flatMap_and_standsAsString "\\\"\\"
  have hstring := hstands "(a" _ hfirst hmode
  have hok : tokenize "b)" = .ok [⟨.symbol "b", 0⟩, ⟨.closeBracket, 1⟩] := rfl
  have herror : tokenize "\"c" = .error (.unterminatedString "c" 0) := rfl
  refine ⟨hfirst, hmode, hquote, ?_, ?_, ?_⟩
  · rw [hstring.tokenize_around, hok]
    rfl
  · rw [hstring.tokenize_around, herror]
    rfl
  · have hsplit : Text.quote "\\\"\\" = "\"\\\\\\\"\\\\" ++ "\"" := rfl
    exact hstring.stands_open hsplit (by decide) (by decide)

end SexpReader
