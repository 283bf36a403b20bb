/-
# Listings are lossless

A listing gives back its lexemes, and it has one line for each. The tab ends the offset, which
is written in digits; the kinds begin differently; a text is a JSON string, so it cannot hold
the line feed that ends its line, whatever it imitates.
-/

import SexpReader.Proofs.Command.Answering
import SexpReader.Proofs.Command.Process
import SexpReader.Proofs.Text.JsonString

namespace SexpReader.Command

/-! ## One line -/

/-- The characters of the offset of a lexeme. -/
def offsetChars (position : Nat) : List Char :=
  (toString position).toList

/-- The characters of the kind of a token and of its text, if it has one. -/
def tokenChars (token : Token) : List Char :=
  token.kind.label.toList ++
    match token.text? with
    | some text => ' ' :: (Text.jsonString text).toList
    | none => []

/-- The characters of the line of a lexeme, without the line feed. -/
def lineChars (lexeme : Lexeme Nat) : List Char :=
  offsetChars lexeme.position ++ ['\t'] ++ tokenChars lexeme.token

theorem toList_listingLine (lexeme : Lexeme Nat) :
    (listingLine lexeme).toList = lineChars lexeme ++ ['\n'] := by
  obtain ⟨token, position⟩ := lexeme
  cases token <;>
    simp [listingLine, lineChars, offsetChars, tokenChars, Token.text?]

theorem toList_listing (lexemes : List (Lexeme Nat)) :
    (listing lexemes).toList = lexemes.flatMap fun lexeme => lineChars lexeme ++ ['\n'] := by
  simp [listing, String.toList_join, List.flatMap_map, toList_listingLine]

theorem offsetChars_eq_toDigits (position : Nat) :
    offsetChars position = Nat.toDigits 10 position := by
  rw [offsetChars, Nat.toString_eq_repr, Nat.toList_repr]

theorem offsetChars_injective : Function.Injective offsetChars := by
  intro first second hsame
  rw [offsetChars_eq_toDigits, offsetChars_eq_toDigits] at hsame
  have hread := congrArg (Nat.ofDigitChars 10 · 0) hsame
  simpa only [Nat.ofDigitChars_ten_toDigits] using hread

/-- No character that is not a digit stands in an offset. -/
theorem not_mem_offsetChars {c : Char} (hc : c.isDigit = false) (position : Nat) :
    c ∉ offsetChars position := by
  intro hmem
  rw [offsetChars_eq_toDigits] at hmem
  rw [Nat.isDigit_of_mem_toDigits (by decide) (by decide) hmem] at hc
  contradiction

theorem isPrefixCode_label : IsPrefixCode fun kind : Token.Kind => kind.label.toList := by
  intro first second rest more hsame
  cases first <;> cases second <;> simp_all [Token.Kind.label]

theorem tokenChars_injective : Function.Injective tokenChars := by
  intro first second hsame
  obtain ⟨hkind, htext⟩ := isPrefixCode_label hsame
  cases first with
  | openBracket =>
      cases second with
      | openBracket => rfl
      | closeBracket | symbol _ | string _ => cases hkind
  | closeBracket =>
      cases second with
      | closeBracket => rfl
      | openBracket | symbol _ | string _ => cases hkind
  | symbol text =>
      cases second with
      | symbol other => rw [Text.isPrefixCode_jsonString.injective (List.cons.inj htext).2]
      | openBracket | closeBracket | string _ => cases hkind
  | string text =>
      cases second with
      | string other => rw [Text.isPrefixCode_jsonString.injective (List.cons.inj htext).2]
      | openBracket | closeBracket | symbol _ => cases hkind

theorem lineChars_injective : Function.Injective lineChars := by
  have hoffset : IsPrefixCode fun position => offsetChars position ++ ['\t'] :=
    IsPrefixCode.concat_of_not_mem offsetChars_injective (not_mem_offsetChars (by decide))
  intro first second hsame
  obtain ⟨token, position⟩ := first
  obtain ⟨otherToken, otherPosition⟩ := second
  obtain ⟨hposition, htoken⟩ := hoffset hsame
  obtain rfl : position = otherPosition := hposition
  obtain rfl : token = otherToken := tokenChars_injective htoken
  rfl

/-- A text cannot break its line. -/
theorem newline_not_mem_lineChars (lexeme : Lexeme Nat) : '\n' ∉ lineChars lexeme := by
  have hjson (text : String) : '\n' ∉ (Text.jsonString text).toList := by
    intro hmem
    exact absurd (Text.isVisible_of_mem_jsonString hmem) (by decide)
  have htoken : '\n' ∉ tokenChars lexeme.token := by
    cases lexeme.token with
    | openBracket | closeBracket => decide
    | symbol text | string text =>
        simp [tokenChars, Token.kind, Token.Kind.label, Token.text?, hjson]
  simp [lineChars, not_mem_offsetChars, htoken]

/-! ## All lines -/

theorem listing_injective : Function.Injective listing := by
  have hline : IsPrefixCode fun lexeme => lineChars lexeme ++ ['\n'] :=
    IsPrefixCode.concat_of_not_mem lineChars_injective newline_not_mem_lineChars
  intro first second hsame
  have hchars := congrArg String.toList hsame
  rw [toList_listing, toList_listing] at hchars
  exact hline.flatMap_injective (by simp) hchars

theorem count_newline_listing (lexemes : List (Lexeme Nat)) :
    (listing lexemes).toList.count '\n' = lexemes.length := by
  rw [toList_listing]
  induction lexemes with
  | nil => rfl
  | cons lexeme lexemes ih =>
      have hline := List.count_eq_zero.2 (newline_not_mem_lineChars lexeme)
      rw [List.flatMap_cons, List.count_append, List.count_append, hline, ih, List.length_cons]
      simp [Nat.add_comm]

/-! ## The command line -/

theorem invoke_lexemes_output {surroundings : Surroundings} {source text : String}
    {lexemes : List (Lexeme Nat)} (htext : surroundings.fetch source >>= decodeSource = .ok text)
    (htokenize : tokenize text = .ok lexemes) (setting : Option String) :
    (invoke surroundings setting [source, "lexemes"]).output = listing lexemes := by
  rw [invoke_output, run_of_asks surroundings (Asks.lexemes source), htext, Request.answer,
    Request.answerText, htokenize]

/-- The lexemes that are written for two sources are the same text only if they are the same
lexemes: the same kinds and texts at the same offsets. The text has one line feed for each. -/
theorem invoke_lexemes_output_eq_iff {surroundings other : Surroundings}
    {source name text otherText : String} {lexemes otherLexemes : List (Lexeme Nat)}
    (htext : surroundings.fetch source >>= decodeSource = .ok text)
    (hother : other.fetch name >>= decodeSource = .ok otherText)
    (htokenize : tokenize text = .ok lexemes)
    (htokenizeOther : tokenize otherText = .ok otherLexemes)
    (setting otherSetting : Option String) :
    ((invoke surroundings setting [source, "lexemes"]).output =
        (invoke other otherSetting [name, "lexemes"]).output ↔ lexemes = otherLexemes) ∧
      (invoke surroundings setting [source, "lexemes"]).output.toList.count '\n' =
        lexemes.length := by
  rw [invoke_lexemes_output htext htokenize, invoke_lexemes_output hother htokenizeOther]
  exact ⟨listing_injective.eq_iff, count_newline_listing lexemes⟩

/-- A string of one line feed from the standard input, and the same string in a file, one
character further on. -/
theorem invoke_lexemes_output_of_line_feed :
    tokenize "\"\n\"" = .ok [⟨.string "\n", 0⟩] ∧
      tokenize " \"\n\"" = .ok [⟨.string "\n", 1⟩] ∧
      (invoke ⟨Text.Utf8.encode "\"\n\"", []⟩ none ["-", "lexemes"]).output ≠
        (invoke ⟨[], [(["o"], Text.Utf8.encode " \"\n\"")]⟩ none ["o", "lexemes"]).output ∧
      (invoke ⟨Text.Utf8.encode "\"\n\"", []⟩ none ["-", "lexemes"]).output.toList.count '\n' =
        1 := by
  have htext : (⟨Text.Utf8.encode "\"\n\"", []⟩ : Surroundings).fetch "-" >>= decodeSource =
      .ok "\"\n\"" := rfl
  have hother : (⟨[], [(["o"], Text.Utf8.encode " \"\n\"")]⟩ : Surroundings).fetch "o" >>=
      decodeSource = .ok " \"\n\"" := rfl
  have htokenize : tokenize "\"\n\"" = .ok [⟨.string "\n", 0⟩] := rfl
  have htokenizeOther : tokenize " \"\n\"" = .ok [⟨.string "\n", 1⟩] := rfl
  obtain ⟨hiff, hcount⟩ :=
    invoke_lexemes_output_eq_iff htext hother htokenize htokenizeOther none none
  refine ⟨htokenize, htokenizeOther, ?_, hcount⟩
  rw [ne_eq, hiff]
  decide

end SexpReader.Command
