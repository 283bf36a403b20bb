/-
# Moving a text

What becomes of the lexemes of a text when other text stands in front of it. A scanner that
starts behind other lexemes does what it would do at the start of a text, only that all
offsets are larger and those lexemes come first. A line feed brings any scanner that could
finish back to such a start.
-/

import SexpReader.Proofs.Lexeme.Feeding

namespace SexpReader

/-- The same token at another place. -/
def Lexeme.map {ρ σ : Type} (f : ρ → σ) (lexeme : Lexeme ρ) : Lexeme σ :=
  ⟨lexeme.token, f lexeme.position⟩

@[simp]
theorem Lexeme.token_map {ρ σ : Type} (f : ρ → σ) (lexeme : Lexeme ρ) :
    (lexeme.map f).token = lexeme.token := rfl

/-- The same error with the offset in another form. -/
def LexError.map (f : Nat → Nat) : LexError → LexError
  | unterminatedString buffer position => .unterminatedString buffer (f position)
  | danglingEscape buffer position => .danglingEscape buffer (f position)

/-- The same mode with a token in progress that started later in the text. -/
def Mode.shift (offset : Nat) : Mode → Mode
  | base => .base
  | symbol start text => .symbol (start + offset) text
  | string start text => .string (start + offset) text
  | escape start text => .escape (start + offset) text
  | comment => .comment

namespace Scanner

/-- The scanner that has read the same text behind other text, which took up the given
offset and has the given lexemes. -/
def behind (offset : Nat) (front : List (Lexeme Nat)) (scanner : Scanner) : Scanner where
  position := scanner.position + offset
  mode := scanner.mode.shift offset
  lexemes := front.toArray ++ scanner.lexemes.map (Lexeme.map (· + offset))

variable {offset : Nat} {front : List (Lexeme Nat)}

theorem initial_behind : initial.behind offset front = ⟨offset, .base, front.toArray⟩ := by
  simp [behind, initial, Mode.shift]

theorem advance_behind (scanner : Scanner) (mode : Mode) :
    (scanner.advance mode).behind offset front =
      (scanner.behind offset front).advance (mode.shift offset) := by
  simp [behind, advance, Nat.add_right_comm]

theorem complete_behind (scanner : Scanner) (token : Token) (start : Nat) :
    (scanner.complete token start).behind offset front =
      (scanner.behind offset front).complete token (start + offset) := by
  simp [behind, complete, Mode.shift, Lexeme.map, Nat.add_right_comm]

theorem stepBase_behind (scanner : Scanner) (c : Char) :
    (scanner.behind offset front).stepBase c = (scanner.stepBase c).behind offset front := by
  simp only [stepBase, apply_ite (behind offset front), advance_behind, complete_behind]
  rfl

/-- A look at a character does the same behind other text. -/
theorem step_behind (scanner : Scanner) (c : Char) :
    (scanner.behind offset front).step c = (scanner.step c).behind offset front := by
  obtain ⟨position, mode, lexemes⟩ := scanner
  cases mode with
  | base => exact stepBase_behind _ c
  | symbol start text =>
      simp only [step, apply_ite (behind offset front), advance_behind]
      simp [behind, Mode.shift, Lexeme.map]
  | string start text =>
      simp only [step, apply_ite (behind offset front), advance_behind, complete_behind]
      rfl
  | escape start text =>
      simp only [step, advance_behind]
      rfl
  | comment =>
      simp only [step, advance_behind, apply_ite (Mode.shift offset)]
      rfl

theorem feed_behind (scanner : Scanner) (c : Char) :
    (scanner.behind offset front).feed c = (scanner.feed c).behind offset front := by
  -- Whether the character is passed, and so looked at only once, does not depend on the offset.
  have hpassed : ((scanner.step c).behind offset front).position =
      (scanner.behind offset front).position ↔ (scanner.step c).position = scanner.position :=
    Nat.add_right_cancel_iff
  simp only [feed, step_behind, hpassed, apply_ite (behind offset front)]

/-- Reading goes on behind other text as it does at the start of a text. -/
theorem feedAll_behind (scanner : Scanner) (chars : List Char) :
    (scanner.behind offset front).feedAll chars = (scanner.feedAll chars).behind offset front := by
  apply List.foldl_hom (behind offset front)
  intro scanner c
  exact feed_behind scanner c

/-- The lexemes of the other text come first, or an error is found further on. -/
theorem finish_behind (scanner : Scanner) :
    (scanner.behind offset front).finish =
      (scanner.finish.map (front ++ ·.map (Lexeme.map (· + offset)))).mapError
        (LexError.map (· + offset)) := by
  obtain ⟨position, mode, lexemes⟩ := scanner
  cases mode with
  | base | comment =>
      apply congrArg Except.ok
      simp [behind]
  | symbol start text =>
      apply congrArg Except.ok
      simp [behind, Lexeme.map]
  | string start text | escape start text => rfl

/-- Behind other text a text gives the same lexemes or the same error, further on. -/
theorem finish_feedAll_behind (source : String) :
    ((initial.behind offset front).feedAll source.toList).finish =
      ((tokenize source).map (front ++ ·.map (Lexeme.map (· + offset)))).mapError
        (LexError.map (· + offset)) := by
  rw [feedAll_behind, finish_behind]
  rfl

theorem feedAll_position (scanner : Scanner) (chars : List Char) :
    (scanner.feedAll chars).position = scanner.position + chars.length := by
  induction chars generalizing scanner with
  | nil => rfl
  | cons c chars ih =>
      rw [feedAll_cons, ih, feed_position, List.length_cons, Nat.add_assoc, Nat.add_comm 1]

theorem position_feedAll_initial (source : String) :
    (initial.feedAll source.toList).position = source.length := by
  rw [feedAll_position, String.length_toList]
  exact Nat.zero_add _

/-- A line feed completes a symbol and ends a comment. -/
theorem feed_newline {scanner : Scanner} {lexemes : List (Lexeme Nat)}
    (h : scanner.finish = .ok lexemes) :
    scanner.feed '\n' = initial.behind (scanner.position + 1) lexemes := by
  rw [initial_behind]
  obtain ⟨position, mode, found⟩ := scanner
  cases mode with
  | string _ _ | escape _ _ => cases h
  | base =>
      cases h
      rw [feed_base, stepBase_of_isDelimiter (by decide)]
  | comment =>
      cases h
      rw [feed_comment, if_pos rfl]
  | symbol start text =>
      cases h
      rw [feed_symbol_of_not_isSymbolChar (by decide), stepBase_of_isDelimiter (by decide)]

end Scanner

/-- Behind a line end a text is cut as it is cut alone, further on. -/
theorem tokenize_append_newline {first : String} {lexemes : List (Lexeme Nat)}
    (h : tokenize first = .ok lexemes) (second : String) :
    tokenize (first ++ "\n" ++ second) =
      ((tokenize second).map (lexemes ++ ·.map (Lexeme.map (· + (first.length + 1))))).mapError
        (LexError.map (· + (first.length + 1))) := by
  have hnewline : "\n".toList = ['\n'] := rfl
  rw [tokenize, String.toList_append, String.toList_append, hnewline, Scanner.feedAll_append,
    Scanner.feedAll_append, Scanner.feedAll_cons, Scanner.feedAll_nil, Scanner.feed_newline h,
    Scanner.finish_feedAll_behind, Scanner.position_feedAll_initial]

/-- A text in brackets is cut into the brackets and what it is cut into alone. The line end
keeps the closing bracket out of a comment. -/
theorem tokenize_bracketed {inner : String} {lexemes : List (Lexeme Nat)}
    (h : tokenize inner = .ok lexemes) :
    tokenize ("(" ++ inner ++ "\n" ++ ")") =
      .ok (⟨.openBracket, 0⟩ :: lexemes.map (Lexeme.map (· + 1)) ++
        [⟨.closeBracket, inner.length + 2⟩]) := by
  have hopen : tokenize ("(" ++ inner) =
      .ok (⟨.openBracket, 0⟩ :: lexemes.map (Lexeme.map (· + 1))) := by
    have hstart : Scanner.initial.feed '(' =
        Scanner.initial.behind 1 [⟨.openBracket, 0⟩] := by
      rw [Scanner.initial_behind, Scanner.initial, Scanner.feed_base,
        Scanner.stepBase_openBracket]
      rfl
    have hbracket : "(".toList = ['('] := rfl
    rw [tokenize, String.toList_append, hbracket, Scanner.feedAll_append, Scanner.feedAll_cons,
      Scanner.feedAll_nil, hstart, Scanner.finish_feedAll_behind, h]
    rfl
  have hclose : tokenize ")" = .ok [⟨.closeBracket, 0⟩] := rfl
  have hlength : ("(" ++ inner).length = inner.length + 1 := by
    rw [String.length_append, Nat.add_comm]
    rfl
  rw [tokenize_append_newline hopen, hclose, hlength]
  apply congrArg Except.ok
  simp [Lexeme.map]

end SexpReader
