/-
# Quoting

The two passes that quote a text do what one pass over its characters does, and what is
between the quotes reads back as the text.
-/

import SexpReader.Text.Quoted
import SexpReader.Lexeme.Layout

namespace SexpReader

namespace Text

/-- Doubling the backslashes and then escaping the quotes puts one backslash before each
character that needs one. -/
theorem replaceChar_replaceChar_eq_flatMap (chars : List Char) :
    replaceChar '"' ['\\', '"'] (replaceChar '\\' ['\\', '\\'] chars) =
      chars.flatMap escapeChar := by
  unfold replaceChar
  rw [List.flatMap_assoc]
  congr 1
  funext c
  by_cases hquote : c = '"'
  · subst hquote
    rfl
  · by_cases hslash : c = '\\'
    · subst hslash
      rfl
    · simp [escapeChar, hquote, hslash]

theorem toList_quote (text : String) :
    (quote text).toList = '"' :: text.toList.flatMap escapeChar ++ ['"'] := by
  rw [quote, String.toList_ofList, replaceChar_replaceChar_eq_flatMap]

theorem unescapes_flatMap_escapeChar (chars : List Char) :
    Unescapes (chars.flatMap escapeChar) chars := by
  induction chars with
  | nil => exact Unescapes.nil
  | cons c chars ih =>
      rw [List.flatMap_cons, escapeChar]
      by_cases hescape : c = '"' ∨ c = '\\'
      · rw [if_pos hescape]
        exact Unescapes.escaped ih
      · rw [if_neg hescape]
        obtain ⟨hquote, hslash⟩ := not_or.1 hescape
        exact Unescapes.plain hquote hslash ih

end Text

end SexpReader
