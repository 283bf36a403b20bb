/-
# Layouts

What a text may look like that has given lexemes at given places: the gaps between tokens,
the spellings of each token, and how the two alternate. The relations are stated on
characters alone and do not mention the scanner.
-/

import SexpReader.CharClass
import SexpReader.Token

namespace SexpReader

/-- Delimiters and comments, where every comment ends with its line. -/
inductive Gap : List Char → Prop
  | nil : Gap []
  | delimiter {c : Char} {rest : List Char} :
      isDelimiter c = true → Gap rest → Gap (c :: rest)
  | comment {body rest : List Char} :
      '\n' ∉ body → Gap rest → Gap (';' :: body ++ '\n' :: rest)

/-- Nothing, or a comment that runs to the end of the text. -/
inductive OpenComment : List Char → Prop
  | nil : OpenComment []
  | comment {body : List Char} : '\n' ∉ body → OpenComment (';' :: body)

/-- The characters between the quotes of a string, and the text that they stand for: a
backslash is dropped, and the character behind it is taken as it is. -/
inductive Unescapes : List Char → List Char → Prop
  | nil : Unescapes [] []
  | plain {c : Char} {body text : List Char} :
      c ≠ '"' → c ≠ '\\' → Unescapes body text → Unescapes (c :: body) (c :: text)
  | escaped {c : Char} {body text : List Char} :
      Unescapes body text → Unescapes ('\\' :: c :: body) (c :: text)

/-- The spellings of a token. Only strings have more than one. -/
inductive Spelling : Token → List Char → Prop
  | openBracket : Spelling .openBracket ['(']
  | closeBracket : Spelling .closeBracket [')']
  | symbol {text : String} :
      text.toList ≠ [] → (∀ c ∈ text.toList, isSymbolChar c = true) →
      Spelling (.symbol text) text.toList
  | string {text : String} {body : List Char} :
      Unescapes body text.toList → Spelling (.string text) ('"' :: body ++ ['"'])

/-- Whether a token is a symbol. -/
def Token.isSymbol : Token → Bool
  | .symbol _ => true
  | _ => false

/-- A text from a given offset on, right behind a symbol or not, that holds given lexemes:
gaps and spellings in turn, a gap at the end, and something between neighbouring symbols.
Each lexeme has the offset of its spelling. -/
inductive Layout : Bool → Nat → List (Lexeme Nat) → List Char → Prop
  | nil {afterSymbol : Bool} {offset : Nat} {gap : List Char} :
      Gap gap → Layout afterSymbol offset [] gap
  | cons {afterSymbol : Bool} {offset : Nat} {token : Token} {lexemes : List (Lexeme Nat)}
      {gap spelling rest : List Char} :
      Gap gap → Spelling token spelling →
      (afterSymbol = true → token.isSymbol = true → gap ≠ []) →
      Layout token.isSymbol (offset + gap.length + spelling.length) lexemes rest →
      Layout afterSymbol offset (⟨token, offset + gap.length⟩ :: lexemes)
        (gap ++ spelling ++ rest)

/-- Gaps and whole tokens in any order. Such a text ends neither inside a string nor inside
a comment. -/
inductive WholeTokens : List Char → Prop
  | nil : WholeTokens []
  | gap {gap rest : List Char} : Gap gap → WholeTokens rest → WholeTokens (gap ++ rest)
  | token {token : Token} {spelling rest : List Char} :
      Spelling token spelling → WholeTokens rest → WholeTokens (spelling ++ rest)

/-- A text that ends inside a string: whole tokens, the opening quote at the given place,
characters that stand for the given buffer, and behind them the given ending. -/
def EndsInString (source : List Char) (buffer : String) (position : Nat)
    (ending : List Char) : Prop :=
  ∃ before body, source = before ++ '"' :: body ++ ending ∧ before.length = position ∧
    WholeTokens before ∧ Unescapes body buffer.toList

/-- The layouts of a whole text, in which a last comment may be open. -/
def IsLayout (lexemes : List (Lexeme Nat)) (source : List Char) : Prop :=
  ∃ body tail, source = body ++ tail ∧ Layout false 0 lexemes body ∧ OpenComment tail

end SexpReader
