/-
# Sequences of characters

A sequence of the characters of a text is cut exactly like the text. The two scanners go
through corresponding modes: where one has collected a text, the other has collected the
characters of that text.
-/

import SexpReader.Value.SequenceScanner
import SexpReader.Lexeme.Scanner

namespace SexpReader

/-- The value of one character is that character. -/
theorem Value.char?_singleton (c : Char) :
    (Value.text (String.singleton c)).char? = some c := by
  simp [Value.char?]

/-- A single character has its own class. -/
theorem Value.charClass_singleton (c : Char) :
    (Value.text (String.singleton c)).charClass = .ok (.ofChar c) := by
  simp [Value.charClass, Value.mutableClass?, CharClass.ofText]

/-- Characters put together are the text that they come from. -/
theorem Value.joinPieces_ofChars (chars : List Char) :
    Value.joinPieces (Value.ofChars chars) = .ok (String.ofList chars) := by
  have general : ∀ (start : Nat) (joined : String),
      ((Value.ofChars chars).zipIdx start).foldlM Value.appendPiece joined =
        .ok (joined ++ String.ofList chars) := by
    induction chars with
    | nil => intro start joined; simp [Value.ofChars]; rfl
    | cons c rest ih =>
        intro start joined
        have step := ih (start + 1) (joined ++ String.singleton c)
        simp only [Value.ofChars] at step
        simp only [Value.ofChars, List.map_cons, List.zipIdx_cons, List.foldlM_cons,
          Value.appendPiece, bind, Except.bind, step]
        simp [String.ext_iff]
  simpa [Value.joinPieces] using general 0 ""

/-- One more character is one more value. -/
theorem Value.ofChars_append (chars : List Char) (c : Char) :
    Value.ofChars (chars ++ [c]) =
      Value.ofChars chars ++ [.text (String.singleton c)] := by
  simp [Value.ofChars]

namespace SequenceScanner

/-- The mode of a scanner of texts as a mode of a scanner of sequences. -/
def modeOf : Mode → SequenceMode
  | .base => .base
  | .symbol start text => .symbol start (Value.ofChars text.toList).reverse
  | .string start text => .string start (Value.ofChars text.toList).reverse
  | .escape start text => .escape start (Value.ofChars text.toList).reverse
  | .comment => .comment

/-- A scanner of texts as a scanner of sequences. -/
def ofScanner (scanner : Scanner) : SequenceScanner :=
  ⟨scanner.position, modeOf scanner.mode, scanner.lexemes⟩

/-- Both scanners look at a character in the same way outside all tokens. -/
theorem stepBase_ofScanner (scanner : Scanner) (c : Char) :
    (ofScanner scanner).stepBase (.text (String.singleton c)) =
      .ok (ofScanner (scanner.stepBase c)) := by
  simp only [stepBase, Value.char?_singleton, Value.charClass_singleton, Scanner.stepBase]
  split
  · simp_all [ofScanner, emit, advance, Scanner.complete, modeOf]
  · simp_all [ofScanner, emit, advance, Scanner.complete, modeOf]
  · simp_all [ofScanner, advance, Scanner.advance, modeOf, Value.ofChars]
  · simp_all [ofScanner, advance, Scanner.advance, modeOf]
  · have structural : isStructural c = false := by
      simp only [isStructural]; simp_all
    cases blank : isDelimiter c <;>
      simp_all [CharClass.ofChar, bind, Except.bind, pure, Except.pure, ofScanner, advance,
        Scanner.advance, modeOf, Value.ofChars]

/-- Both scanners read a character in the same way. -/
theorem feed_ofScanner (scanner : Scanner) (c : Char) :
    (ofScanner scanner).feed (.text (String.singleton c)) =
      .ok (ofScanner (scanner.feed c)) := by
  obtain ⟨position, mode, lexemes⟩ := scanner
  cases mode with
  | base =>
      have passed := Scanner.stepBase_position ⟨position, .base, lexemes⟩ c
      have once : (Scanner.mk position .base lexemes).feed c =
          (Scanner.mk position .base lexemes).stepBase c := by
        simp [Scanner.feed, Scanner.step, passed]
      rw [once, ← stepBase_ofScanner]
      rfl
  | symbol start text =>
      simp only [feed, ofScanner, modeOf, Value.charClass_singleton, bind, Except.bind]
      cases ordinary : isSymbolChar c with
      | true =>
          rw [CharClass.ofChar_eq_symbol_iff.mpr ordinary]
          simp [Scanner.feed, Scanner.step, ordinary, Scanner.advance, advance, pure,
            Except.pure, Value.ofChars_append]
      | false =>
          have other : CharClass.ofChar c ≠ .symbol := by
            simp [CharClass.ofChar_eq_symbol_iff, ordinary]
          have twice : (Scanner.mk position (.symbol start text) lexemes).feed c =
              (Scanner.mk position .base (lexemes.push ⟨.symbol text, start⟩)).stepBase c := by
            simp [Scanner.feed, Scanner.step, ordinary]
          have again := stepBase_ofScanner
            ⟨position, .base, lexemes.push ⟨.symbol text, start⟩⟩ c
          cases found : CharClass.ofChar c with
          | symbol => exact absurd found other
          | structural =>
              simpa [twice, Value.joinPieces_ofChars, emit, ofScanner, modeOf] using again
          | delimiter =>
              simpa [twice, Value.joinPieces_ofChars, emit, ofScanner, modeOf] using again
  | string start text =>
      simp only [feed, ofScanner, modeOf, Value.char?_singleton]
      split
      · simp_all [Scanner.feed, Scanner.step, Scanner.complete, Value.joinPieces_ofChars, bind,
          Except.bind, pure, Except.pure, emit, advance]
      · simp_all [Scanner.feed, Scanner.step, Scanner.advance, advance]
      · simp_all [Scanner.feed, Scanner.step, Scanner.advance, advance, Value.ofChars_append]
  | escape start text =>
      simp [feed, ofScanner, modeOf, Scanner.feed, Scanner.step, Scanner.advance, advance,
        Value.ofChars_append]
  | comment =>
      simp only [feed, ofScanner, modeOf, Value.char?_singleton]
      split <;>
        simp_all [Scanner.feed, Scanner.step, Scanner.advance, advance]

/-- Both scanners read all characters in the same way. -/
theorem feedAll_ofScanner (chars : List Char) (scanner : Scanner) :
    (Value.ofChars chars).foldlM feed (ofScanner scanner) =
      .ok (ofScanner (scanner.feedAll chars)) := by
  induction chars generalizing scanner with
  | nil => rfl
  | cons c rest ih =>
      have next := ih (scanner.feed c)
      simp only [Value.ofChars] at next
      simp only [Value.ofChars, List.map_cons, List.foldlM_cons, feed_ofScanner, bind,
        Except.bind, next]
      rfl

/-- Both scanners end in the same way. -/
theorem finish_ofScanner (scanner : Scanner) :
    (ofScanner scanner).finish = scanner.finish.mapError .lexical := by
  obtain ⟨position, mode, lexemes⟩ := scanner
  cases mode with
  | base | comment => rfl
  | symbol start text =>
      show _ = Except.ok (lexemes.push ⟨.symbol text, start⟩).toList
      simp [finish, ofScanner, modeOf, Value.joinPieces_ofChars, bind, Except.bind, pure,
        Except.pure, emit]
  | string start text =>
      show _ = Except.error (Fault.lexical (.unterminatedString text start))
      simp [finish, ofScanner, modeOf, Value.joinPieces_ofChars, bind, Except.bind, throw,
        throwThe, MonadExceptOf.throw]
  | escape start text =>
      show _ = Except.error (Fault.lexical (.danglingEscape text start))
      simp [finish, ofScanner, modeOf, Value.joinPieces_ofChars, bind, Except.bind, throw,
        throwThe, MonadExceptOf.throw]

end SequenceScanner

/-- A list of the characters of a text is cut like the text. -/
theorem tokenizeItems_ofChars (source : String) :
    tokenizeItems (Value.ofChars source.toList) = (tokenize source).mapError .lexical := by
  have fed := SequenceScanner.feedAll_ofScanner source.toList Scanner.initial
  have start : SequenceScanner.ofScanner Scanner.initial = SequenceScanner.initial := rfl
  rw [start] at fed
  simp only [tokenizeItems, fed, bind, Except.bind, SequenceScanner.finish_ofScanner, tokenize]

end SexpReader
