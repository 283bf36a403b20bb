/-
# Unfinished strings

A text that cannot be cut into lexemes ends inside a string, and the error tells where that
string began and what it had collected. The quote that began it is the one behind whole
tokens: not a quote inside another string, nor one inside a comment. Closing the string
repairs the text, and nothing that was read in front of it changes.
-/

import SexpReader.Proofs.Lexeme.Tokenizing

namespace SexpReader

/-- What an unfinished string ends with behind the characters that stand for its buffer. -/
def LexError.ending : LexError → List Char
  | unterminatedString _ _ => []
  | danglingEscape _ _ => ['\\']

namespace Scanner

/-- Behind whole tokens, a quote and some of a string, the scanner is inside that string. -/
theorem feedAll_layout_quote_body {lexemes : List (Lexeme Nat)} {before body : List Char}
    {buffer : String} (hlaid : Layout false 0 lexemes before)
    (hbody : Unescapes body buffer.toList) :
    initial.feedAll (before ++ '"' :: body) =
      ⟨before.length + 1 + body.length, .string before.length buffer, lexemes.toArray⟩ := by
  -- The quote completes a symbol that may stand right in front of it.
  have hquote : (initial.feedAll before).feed '"' = (initial.feedAll before).close.feed '"' :=
    (feed_close _ (by decide)).symm
  rw [feedAll_append, feedAll_cons, hquote, close_feedAll_initial hlaid, ← feedAll_cons,
    feedAll_quote_body hbody, String.ofList_toList]

/-- A scanner that cannot finish has read a text that ends inside a string. -/
theorem Follows.endsInString {consumed : List Char} {scanner : Scanner} {error : LexError}
    (h : Follows consumed scanner) (hfinish : scanner.finish = .error error) :
    EndsInString consumed error.buffer error.position error.ending := by
  cases h with
  | base _ _ | symbol _ _ _ | comment _ _ => cases hfinish
  | string hlaid hbody =>
      cases hfinish
      exact ⟨_, _, (List.append_nil _).symm, rfl, hlaid.wholeTokens, hbody⟩
  | escape hlaid hbody =>
      cases hfinish
      exact ⟨_, _, rfl, rfl, hlaid.wholeTokens, hbody⟩

end Scanner

/-- An error tells exactly how the text ends inside a string. -/
theorem tokenize_eq_error_iff {source : String} {error : LexError} :
    tokenize source = .error error ↔
      EndsInString source.toList error.buffer error.position error.ending := by
  constructor
  · intro h
    exact (Scanner.Follows.initial.feedAll source.toList).endsInString h
  · rintro ⟨before, body, hsource, hposition, hwhole, hbody⟩
    obtain ⟨lexemes, hlaid⟩ := hwhole.exists_layout 0
    rw [tokenize, hsource, Scanner.feedAll_append,
      Scanner.feedAll_layout_quote_body hlaid hbody]
    cases error with
    | unterminatedString buffer position =>
        obtain rfl : before.length = position := hposition
        rfl
    | danglingEscape buffer position =>
        obtain rfl : before.length = position := hposition
        rw [LexError.ending, Scanner.feedAll_cons, Scanner.feed_string, if_neg (by decide),
          if_pos rfl]
        rfl

/-- Closing an unfinished string gives the lexemes in front of it and the string. What the
closed string stands for may be longer than what was collected. -/
theorem EndsInString.exists_tokenize {source buffer : String} {position : Nat}
    {ending : List Char} (h : EndsInString source.toList buffer position ending) :
    ∃ lexemes, tokenize (String.ofList (source.toList.take position)) = .ok lexemes ∧
      ∀ more text : String, Unescapes (ending ++ more.toList) text.toList →
        tokenize (source ++ more ++ "\"") =
          .ok (lexemes ++ [⟨.string (buffer ++ text), position⟩]) := by
  obtain ⟨before, body, hsource, rfl, hwhole, hbody⟩ := h
  obtain ⟨lexemes, hlaid⟩ := hwhole.exists_layout 0
  refine ⟨lexemes, ?_, ?_⟩
  · apply tokenize_of_isLayout
    simpa [hsource] using hlaid.isLayout
  · intro more text hmore
    have hstring : Unescapes (body ++ (ending ++ more.toList)) (buffer ++ text).toList := by
      rw [String.toList_append]
      exact hbody.append hmore
    have hclosed := hlaid.append_spelling (Spelling.string hstring) (by simp [Token.isSymbol])
    apply tokenize_of_isLayout
    simpa [hsource] using hclosed.isLayout

/-- Both lexical errors arise exactly where a text ends inside a string, right behind a
backslash or not, with the text collected so far and the place of the opening quote. One
more quote, or any character and a quote, completes the lexemes in front by that string. -/
theorem tokenize_error_iff_endsInString (source buffer : String) (position : Nat) :
    (tokenize source = .error (.unterminatedString buffer position) ↔
        EndsInString source.toList buffer position []) ∧
      (tokenize source = .error (.danglingEscape buffer position) ↔
        EndsInString source.toList buffer position ['\\']) ∧
      (tokenize source = .error (.unterminatedString buffer position) →
        ∃ lexemes, tokenize (String.ofList (source.toList.take position)) = .ok lexemes ∧
          tokenize (source ++ "\"") = .ok (lexemes ++ [⟨.string buffer, position⟩])) ∧
      (tokenize source = .error (.danglingEscape buffer position) →
        ∃ lexemes, tokenize (String.ofList (source.toList.take position)) = .ok lexemes ∧
          ∀ c, tokenize (source.push c ++ "\"") =
            .ok (lexemes ++ [⟨.string (buffer.push c), position⟩])) := by
  refine ⟨tokenize_eq_error_iff, tokenize_eq_error_iff, ?_, ?_⟩
  · intro h
    have hends : EndsInString source.toList buffer position [] := tokenize_eq_error_iff.1 h
    obtain ⟨lexemes, hfront, hclosed⟩ := hends.exists_tokenize
    refine ⟨lexemes, hfront, ?_⟩
    simpa using hclosed "" "" Unescapes.nil
  · intro h
    have hends : EndsInString source.toList buffer position ['\\'] := tokenize_eq_error_iff.1 h
    obtain ⟨lexemes, hfront, hclosed⟩ := hends.exists_tokenize
    refine ⟨lexemes, hfront, ?_⟩
    intro c
    have hescaped :
        Unescapes ('\\' :: (String.singleton c).toList) (String.singleton c).toList := by
      simpa using Unescapes.escaped Unescapes.nil
    simpa using hclosed (String.singleton c) (String.singleton c) hescaped

/-- Quotes that are hidden in a comment and behind a backslash, and the errors of the strings
that stand open at the end. -/
theorem tokenize_error_behind_comment :
    tokenize "a\"b;\\\"" = .error (.unterminatedString "b;\"" 1) ∧
      (∃ lexemes, tokenize (String.ofList ("a\"b;\\\"".toList.take 1)) = .ok lexemes ∧
        tokenize ("a\"b;\\\"" ++ "\"") = .ok (lexemes ++ [⟨.string "b;\"", 1⟩])) ∧
      tokenize ";\"\n(\"a\\" = .error (.danglingEscape "a" 4) ∧
      ∃ lexemes, tokenize (String.ofList (";\"\n(\"a\\".toList.take 4)) = .ok lexemes ∧
        ∀ c, tokenize (";\"\n(\"a\\".push c ++ "\"") =
          .ok (lexemes ++ [⟨.string ("a".push c), 4⟩]) := by
  have hquoted : tokenize "a\"b;\\\"" = .error (.unterminatedString "b;\"" 1) := rfl
  have hescaped : tokenize ";\"\n(\"a\\" = .error (.danglingEscape "a" 4) := rfl
  obtain ⟨-, -, hclosed, -⟩ := tokenize_error_iff_endsInString "a\"b;\\\"" "b;\"" 1
  obtain ⟨-, -, -, hrepaired⟩ := tokenize_error_iff_endsInString ";\"\n(\"a\\" "a" 4
  exact ⟨hquoted, hclosed hquoted, hescaped, hrepaired hescaped⟩

end SexpReader
