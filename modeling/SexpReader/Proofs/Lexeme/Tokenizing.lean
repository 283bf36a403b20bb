/-
# Tokenizing and layouts

A text is cut into given lexemes exactly when it is a layout of them. One direction follows
the scanner character by character: `Follows` says for each mode how the text read so far is
laid out. The other direction follows the layout piece by piece.
-/

import SexpReader.Proofs.Lexeme.Feeding

namespace SexpReader

namespace Scanner

/-- How the text read so far explains a scanner: what is complete is laid out in front, and
the rest of the text belongs to the token or comment in progress. -/
inductive Follows : List Char → Scanner → Prop
  | base {lexemes : Array (Lexeme Nat)} {consumed : List Char} :
      Layout false 0 lexemes.toList consumed → endsSymbol false consumed = false →
      Follows consumed ⟨consumed.length, .base, lexemes⟩
  | symbol {lexemes : Array (Lexeme Nat)} {before : List Char} {text : String} :
      Layout false 0 lexemes.toList before → endsSymbol false before = false →
      Spelling (.symbol text) text.toList →
      Follows (before ++ text.toList)
        ⟨(before ++ text.toList).length, .symbol before.length text, lexemes⟩
  | string {lexemes : Array (Lexeme Nat)} {before body : List Char} {text : String} :
      Layout false 0 lexemes.toList before → Unescapes body text.toList →
      Follows (before ++ '"' :: body)
        ⟨(before ++ '"' :: body).length, .string before.length text, lexemes⟩
  | escape {lexemes : Array (Lexeme Nat)} {before body : List Char} {text : String} :
      Layout false 0 lexemes.toList before → Unescapes body text.toList →
      Follows (before ++ '"' :: body ++ ['\\'])
        ⟨(before ++ '"' :: body ++ ['\\']).length, .escape before.length text, lexemes⟩
  | comment {lexemes : Array (Lexeme Nat)} {before body : List Char} :
      Layout false 0 lexemes.toList before → '\n' ∉ body →
      Follows (before ++ ';' :: body)
        ⟨(before ++ ';' :: body).length, .comment, lexemes⟩

namespace Follows

theorem initial : Follows [] Scanner.initial :=
  Follows.base (Layout.nil Gap.nil) rfl

/-- Behind a token, a delimiter or a comment the scanner is outside all tokens. -/
theorem base_concat {lexemes : Array (Lexeme Nat)} {consumed : List Char} {c : Char}
    (h : Layout false 0 lexemes.toList (consumed ++ [c])) (hc : isSymbolChar c = false) :
    Follows (consumed ++ [c]) ⟨consumed.length + 1, .base, lexemes⟩ := by
  have hends : endsSymbol false (consumed ++ [c]) = false := by rw [endsSymbol_concat, hc]
  simpa using Follows.base h hends

/-- Outside all tokens the next character may be anything, except that a symbol must not
begin right behind a symbol. -/
theorem stepBase {lexemes : Array (Lexeme Nat)} {consumed : List Char}
    (h : Layout false 0 lexemes.toList consumed) {c : Char}
    (hseparate : isSymbolChar c = true → endsSymbol false consumed = false) :
    Follows (consumed ++ [c]) (Scanner.stepBase ⟨consumed.length, .base, lexemes⟩ c) := by
  by_cases hsymbol : isSymbolChar c = true
  · have hspelling : Spelling (.symbol (String.singleton c)) (String.singleton c).toList :=
      Spelling.symbol (by simp) (by simpa using hsymbol)
    rw [stepBase_of_isSymbolChar hsymbol]
    simpa using Follows.symbol h (hseparate hsymbol) hspelling
  · rw [Bool.not_eq_true] at hsymbol
    by_cases hdelimiter : isDelimiter c = true
    · rw [stepBase_of_isDelimiter hdelimiter]
      exact base_concat (h.append_gap (Gap.delimiter hdelimiter Gap.nil)) hsymbol
    · -- Neither a symbol nor a delimiter: one of the four structural characters is left.
      have hstructural : isStructural c = true := by simp_all [isSymbolChar]
      simp only [isStructural, Bool.or_eq_true, beq_iff_eq] at hstructural
      rcases hstructural with ((rfl | rfl) | rfl) | rfl
      · have hlaid := h.append_spelling Spelling.openBracket (by simp [Token.isSymbol])
        rw [stepBase_openBracket]
        exact base_concat (by simpa using hlaid) rfl
      · have hlaid := h.append_spelling Spelling.closeBracket (by simp [Token.isSymbol])
        rw [stepBase_closeBracket]
        exact base_concat (by simpa using hlaid) rfl
      · have hempty : Unescapes [] "".toList := Unescapes.nil
        rw [stepBase_quote]
        simpa using Follows.string h hempty
      · have hempty : '\n' ∉ [] := List.not_mem_nil
        rw [stepBase_semicolon]
        simpa using Follows.comment h hempty

/-- One more character keeps the scanner explained. -/
theorem feed {consumed : List Char} {scanner : Scanner} (h : Follows consumed scanner)
    (c : Char) : Follows (consumed ++ [c]) (scanner.feed c) := by
  cases h with
  | base hlaid hends =>
      rw [feed_base]
      exact stepBase hlaid fun _ => hends
  | symbol hlaid hends hspelling =>
      by_cases hc : isSymbolChar c = true
      · rw [feed_symbol_of_isSymbolChar hc]
        simpa [Nat.add_assoc] using Follows.symbol hlaid hends (hspelling.push hc)
      · have hwhole := hlaid.append_spelling hspelling fun _ => hends
        rw [feed_symbol_of_not_isSymbolChar (by simpa using hc)]
        exact stepBase (by simpa using hwhole) fun hsymbol => absurd hsymbol hc
  | string hlaid hbody =>
      rw [feed_string]
      by_cases hquote : c = '"'
      · have hwhole := hlaid.append_spelling (Spelling.string hbody) (by simp [Token.isSymbol])
        subst hquote
        rw [if_pos rfl]
        exact base_concat (by simpa using hwhole) rfl
      · rw [if_neg hquote]
        by_cases hslash : c = '\\'
        · subst hslash
          rw [if_pos rfl]
          simpa [Nat.add_assoc] using Follows.escape hlaid hbody
        · rw [if_neg hslash]
          simpa [Nat.add_assoc] using Follows.string hlaid (hbody.push hquote hslash)
  | escape hlaid hbody =>
      rw [feed_escape]
      simpa [Nat.add_assoc] using Follows.string hlaid (hbody.push_escaped c)
  | @comment lexemes before body hlaid hbody =>
      rw [feed_comment]
      by_cases hc : c = '\n'
      · have hwhole := hlaid.append_gap (Gap.comment hbody Gap.nil)
        subst hc
        rw [if_pos rfl]
        exact base_concat (by simpa using hwhole) rfl
      · rw [if_neg hc]
        have hlonger : '\n' ∉ body ++ [c] := by simpa [hbody] using Ne.symm hc
        simpa [Nat.add_assoc] using Follows.comment hlaid hlonger

/-- The whole text read so far explains the scanner at every point. -/
theorem feedAll {consumed : List Char} {scanner : Scanner} (h : Follows consumed scanner)
    (chars : List Char) : Follows (consumed ++ chars) (scanner.feedAll chars) := by
  induction chars generalizing consumed scanner with
  | nil => simpa using h
  | cons c chars ih => simpa using ih (h.feed c)

/-- A scanner that can finish has read a layout of what it finishes with. -/
theorem isLayout_of_finish {consumed : List Char} {scanner : Scanner}
    (h : Follows consumed scanner) {lexemes : List (Lexeme Nat)}
    (hfinish : scanner.finish = .ok lexemes) : IsLayout lexemes consumed := by
  cases h with
  | base hlaid _ =>
      cases hfinish
      exact ⟨_, [], by simp, hlaid, OpenComment.nil⟩
  | symbol hlaid hends hspelling =>
      cases hfinish
      have hwhole := hlaid.append_spelling hspelling fun _ => hends
      exact ⟨_, [], (List.append_nil _).symm, by simpa using hwhole, OpenComment.nil⟩
  | comment hlaid hbody =>
      cases hfinish
      exact ⟨_, _, rfl, hlaid, OpenComment.comment hbody⟩
  | string _ _ | escape _ _ => cases hfinish

end Follows

/-- Behind a layout a comment may still be open at the end of the text. -/
theorem finish_feedAll_openComment {scanner : Scanner} {position : Nat}
    {lexemes : Array (Lexeme Nat)} (h : scanner.close = ⟨position, .base, lexemes⟩)
    {tail : List Char} (htail : OpenComment tail) :
    (scanner.feedAll tail).finish = .ok lexemes.toList := by
  cases htail with
  | nil =>
      rw [feedAll_nil, ← finish_close, h]
      rfl
  | comment hbody =>
      rw [feedAll_cons, ← feed_close scanner (by decide), h, feed_base, stepBase_semicolon,
        feedAll_comment hbody]
      rfl

end Scanner

theorem isLayout_of_tokenize {source : String} {lexemes : List (Lexeme Nat)}
    (h : tokenize source = .ok lexemes) : IsLayout lexemes source.toList :=
  (Scanner.Follows.initial.feedAll source.toList).isLayout_of_finish h

theorem tokenize_of_isLayout {source : String} {lexemes : List (Lexeme Nat)}
    (h : IsLayout lexemes source.toList) : tokenize source = .ok lexemes := by
  obtain ⟨body, tail, hsource, hlaid, htail⟩ := h
  rw [tokenize, hsource, Scanner.feedAll_append]
  exact Scanner.finish_feedAll_openComment (Scanner.close_feedAll_initial hlaid) htail

/-- The scanner accepts exactly the layouts, and finds exactly the lexemes that are laid
out: their kinds, their texts and their offsets. -/
theorem tokenize_eq_ok_iff_isLayout (source : String) (lexemes : List (Lexeme Nat)) :
    tokenize source = .ok lexemes ↔ IsLayout lexemes source.toList :=
  ⟨isLayout_of_tokenize, tokenize_of_isLayout⟩

end SexpReader
