/-
# More text behind a text

Which lexemes of a text stay when more text is appended. A scanner outside all tokens goes on
behind its lexemes as it does at the start of a text, and one inside a comment does too, so
their lexemes stay and errors lie behind them. Only a symbol in progress can change: it takes
in the characters that may stand in a symbol, and the first other character ends it there.
-/

import Mathlib.Data.List.TakeWhile
import SexpReader.Proofs.Lexeme.Relocation
import SexpReader.Proofs.Lexeme.Tokenizing

namespace SexpReader

/-- What may come of a text from an offset on, where the lexemes in front are given: these and
more lexemes, or the error of a string that begins no earlier. -/
structure Continues (front : List (Lexeme Nat)) (offset : Nat)
    (result : Except LexError (List (Lexeme Nat))) : Prop where
  front_of_ok {whole : List (Lexeme Nat)} : result = .ok whole → front <+: whole
  le_of_error {error : LexError} : result = .error error → offset ≤ error.position

theorem Continues.of_le {front : List (Lexeme Nat)} {offset earlier : Nat}
    {result : Except LexError (List (Lexeme Nat))} (h : Continues front offset result)
    (hle : earlier ≤ offset) : Continues front earlier result where
  front_of_ok := h.front_of_ok
  le_of_error herror := Nat.le_trans hle (h.le_of_error herror)

namespace Scanner

variable {position start : Nat} {text : String} {lexemes : Array (Lexeme Nat)}

theorem continues_behind (scanner : Scanner) (front : List (Lexeme Nat)) (offset : Nat)
    (chars : List Char) :
    Continues front offset ((scanner.behind offset front).feedAll chars).finish := by
  rw [feedAll_behind, finish_behind]
  cases (scanner.feedAll chars).finish with
  | ok later =>
      refine ⟨?_, nofun⟩
      rintro whole ⟨⟩
      exact List.prefix_append front _
  | error error =>
      refine ⟨nofun, ?_⟩
      rintro moved ⟨⟩
      cases error with
      | unterminatedString _ start | danglingEscape _ start => exact Nat.le_add_left offset start

theorem continues_base (chars : List Char) :
    Continues lexemes.toList position (feedAll ⟨position, .base, lexemes⟩ chars).finish := by
  have hstart : initial.behind position lexemes.toList = ⟨position, .base, lexemes⟩ :=
    initial_behind
  rw [← hstart]
  exact continues_behind initial lexemes.toList position chars

theorem continues_comment (chars : List Char) :
    Continues lexemes.toList position (feedAll ⟨position, .comment, lexemes⟩ chars).finish := by
  have hstart : behind position lexemes.toList ⟨0, .comment, #[]⟩ =
      ⟨position, .comment, lexemes⟩ := by
    simp [behind, Mode.shift]
  rw [← hstart]
  exact continues_behind ⟨0, .comment, #[]⟩ lexemes.toList position chars

/-- A symbol in progress takes in what may stand in a symbol, and is then complete. -/
theorem continues_symbol (chars : List Char) :
    Continues
      (lexemes.toList ++
        [⟨.symbol (text ++ String.ofList (chars.takeWhile isSymbolChar)), start⟩])
      position (feedAll ⟨position, .symbol start text, lexemes⟩ chars).finish := by
  have hrun : ∀ c ∈ chars.takeWhile isSymbolChar, isSymbolChar c = true :=
    fun _ hc => List.mem_takeWhile_imp hc
  have hhead : ∀ c rest, chars.dropWhile isSymbolChar = c :: rest → isSymbolChar c = false := by
    intro c rest hrest
    have hstop := List.head_dropWhile_not isSymbolChar (l := chars) (by simp [hrest])
    simpa [hrest] using hstop
  have hsplit := List.takeWhile_append_dropWhile (p := isSymbolChar) (l := chars)
  generalize chars.takeWhile isSymbolChar = run at hrun hsplit ⊢
  generalize chars.dropWhile isSymbolChar = rest at hhead hsplit
  subst hsplit
  rw [feedAll_append, feedAll_symbolChars hrun, ← finish_close, ← close_feedAll_close _ hhead,
    finish_close, close_symbol, ← Array.toList_push]
  exact (continues_base rest).of_le (Nat.le_add_right position run.length)

end Scanner

/-- The last lexeme is a symbol that reaches to the offset where the other text begins. That
text begins with characters that may stand in a symbol, and in the whole all of these are
part of the symbol, which starts where it did. -/
def LastSymbolGrows (lexemes whole : List (Lexeme Nat)) (offset : Nat) (second : List Char) :
    Prop :=
  ∃ front text start, lexemes = front ++ [⟨.symbol text, start⟩] ∧
    start + text.length = offset ∧
    (∃ c rest, second = c :: rest ∧ isSymbolChar c = true) ∧
    front ++ [⟨.symbol (text ++ String.ofList (second.takeWhile isSymbolChar)), start⟩] <+: whole

/-- A scanner that could finish keeps its lexemes, up to a symbol in progress. -/
theorem Scanner.Follows.extend {consumed : List Char} {scanner : Scanner}
    (h : Follows consumed scanner) {lexemes : List (Lexeme Nat)}
    (hfinish : scanner.finish = .ok lexemes) (chars : List Char) :
    (∀ whole, (scanner.feedAll chars).finish = .ok whole →
        lexemes <+: whole ∨ LastSymbolGrows lexemes whole consumed.length chars) ∧
      ∀ error, (scanner.feedAll chars).finish = .error error →
        consumed.length ≤ error.position := by
  cases h with
  | string _ _ | escape _ _ => cases hfinish
  | @base found _ _ _ =>
      cases hfinish
      have hmore : Continues found.toList consumed.length _ := continues_base chars
      exact ⟨fun _ hwhole => Or.inl (hmore.front_of_ok hwhole), fun _ => hmore.le_of_error⟩
  | @comment found before body _ _ =>
      cases hfinish
      have hmore : Continues found.toList (before ++ ';' :: body).length _ :=
        continues_comment chars
      exact ⟨fun _ hwhole => Or.inl (hmore.front_of_ok hwhole), fun _ => hmore.le_of_error⟩
  | @symbol found before text _ _ _ =>
      cases hfinish
      have hmore : Continues
          (found.toList ++
            [⟨.symbol (text ++ String.ofList (chars.takeWhile isSymbolChar)), before.length⟩])
          (before ++ text.toList).length _ := continues_symbol chars
      refine ⟨fun whole hwhole => ?_, fun _ => hmore.le_of_error⟩
      have hgrown := hmore.front_of_ok hwhole
      rw [Array.toList_push]
      cases chars with
      | nil => exact Or.inl (by simpa using hgrown)
      | cons c rest =>
          by_cases hc : isSymbolChar c = true
          · refine Or.inr ⟨found.toList, text, before.length, rfl, ?_, ⟨c, rest, rfl, hc⟩, hgrown⟩
            rw [List.length_append, String.length_toList]
          · exact Or.inl (by simpa [List.takeWhile_cons_of_neg hc] using hgrown)

/-- Appending text keeps all lexemes, up to a last symbol that the text goes on with. What
is then wrong lies in the text appended. -/
theorem tokenize_append {first : String} {lexemes : List (Lexeme Nat)}
    (h : tokenize first = .ok lexemes) (second : String) :
    (∀ whole, tokenize (first ++ second) = .ok whole →
        lexemes <+: whole ∨ LastSymbolGrows lexemes whole first.length second.toList) ∧
      ∀ error, tokenize (first ++ second) = .error error → first.length ≤ error.position := by
  have hfollows := Scanner.Follows.initial.feedAll first.toList
  have hsame : tokenize (first ++ second) =
      ((Scanner.initial.feedAll first.toList).feedAll second.toList).finish := by
    rw [tokenize, String.toList_append, Scanner.feedAll_append]
  rw [hsame, ← String.length_toList]
  exact hfollows.extend h second.toList

/-- A symbol at the end of the first text grows as far as the second text goes on with it,
and a string that the second text does not end is found behind the first. -/
theorem tokenize_append_of_symbol :
    tokenize "(ab" = .ok [⟨.openBracket, 0⟩, ⟨.symbol "ab", 1⟩] ∧
      LastSymbolGrows [⟨.openBracket, 0⟩, ⟨.symbol "ab", 1⟩]
        [⟨.openBracket, 0⟩, ⟨.symbol "abc", 1⟩, ⟨.symbol "d", 5⟩] 3 "c d".toList ∧
      tokenize ("(ab" ++ "c \"d") = .error (.unterminatedString "d" 5) ∧
      "(ab".length ≤ (LexError.unterminatedString "d" 5).position := by
  have hfirst : tokenize "(ab" = .ok [⟨.openBracket, 0⟩, ⟨.symbol "ab", 1⟩] := rfl
  have hwhole : tokenize ("(ab" ++ "c d") =
      .ok [⟨.openBracket, 0⟩, ⟨.symbol "abc", 1⟩, ⟨.symbol "d", 5⟩] := rfl
  have herror : tokenize ("(ab" ++ "c \"d") = .error (.unterminatedString "d" 5) := rfl
  obtain ⟨hgrows, -⟩ := tokenize_append hfirst "c d"
  obtain ⟨-, hbehind⟩ := tokenize_append hfirst "c \"d"
  exact ⟨hfirst, (hgrows _ hwhole).resolve_left (by decide), herror, hbehind _ herror⟩

end SexpReader
