/-
# Concatenated texts

A text that can be read and any text on the lines below it read as the one program followed
by the other. What is wrong with the lower text is wrong in the same way with both, further
on. Brackets around a text make an expression of its program. All of this rests on two
facts about building: a program in front comes first, and places only pass through.
-/

import SexpReader.Proofs.Lexeme.Relocation
import SexpReader.Proofs.Node.RoundTrip
import SexpReader.Proofs.Node.Verdict

namespace SexpReader

variable {ρ σ : Type}

theorem map_token_map (f : ρ → σ) (lexemes : List (Lexeme ρ)) :
    (lexemes.map (Lexeme.map f)).map Lexeme.token = lexemes.map Lexeme.token := by
  rw [List.map_map]
  rfl

/-- Other places change the place of an error, but neither the program nor the bracket at
fault. -/
theorem Outcome.map {lexemes : List (Lexeme ρ)} {outcome : Except (BracketError ρ) Program}
    (h : Outcome lexemes outcome) (f : ρ → σ) :
    Outcome (lexemes.map (Lexeme.map f)) (outcome.mapError (BracketError.map f)) := by
  have hsplit {before after : List (Lexeme ρ)} {lexeme : Lexeme ρ}
      (hwhole : lexemes = before ++ lexeme :: after) :
      lexemes.map (Lexeme.map f) =
        before.map (Lexeme.map f) ++ lexeme.map f :: after.map (Lexeme.map f) := by
    rw [hwhole, List.map_append, List.map_cons]
  cases h with
  | complete hall =>
      rw [← map_token_map f] at hall
      exact Outcome.complete hall
  | @superfluous before after close _ hwhole hfront hclose =>
      rw [← map_token_map f] at hfront
      exact Outcome.superfluous (hsplit hwhole) hfront hclose
  | @unclosed before after opener _ hwhole hfront hopener hafter =>
      rw [← map_token_map f] at hfront hafter
      exact Outcome.unclosed (hsplit hwhole) hfront hopener hafter

theorem parse_map (f : ρ → σ) (lexemes : List (Lexeme ρ)) :
    parse (lexemes.map (Lexeme.map f)) = (parse lexemes).mapError (BracketError.map f) := by
  apply (parse_outcome _).unique
  exact (parse_outcome lexemes).map f

theorem parse_append {first : List (Lexeme ρ)} {program : Program}
    (h : parse first = .ok program) (second : List (Lexeme ρ)) :
    parse (first ++ second) = (parse second).map (program ++ ·) := by
  apply (parse_outcome _).unique
  exact (parse_outcome second).prepend (flatten_of_parse h)

/-- The same error with the offset in another form. -/
def ReadError.map (f : Nat → Nat) : ReadError → ReadError
  | lexical error => .lexical (error.map f)
  | bracket error => .bracket (error.map f)

/-- Reading is compositional: below a text that can be read, any text reads as it does
alone, behind the program of the first and with its errors further on by the first text and
the line end. In brackets the text reads as one expression. -/
theorem read_append_newline {first : String} {program : Program}
    (h : read first = .ok program) :
    (∀ second, read (first ++ "\n" ++ second) =
        ((read second).map (program ++ ·)).mapError
          (ReadError.map (· + (first.length + 1)))) ∧
      read ("(" ++ first ++ "\n" ++ ")") = .ok [.expression program] := by
  obtain ⟨lexemes, htokenize, hparse⟩ := read_eq_ok_iff.1 h
  constructor
  · intro second
    have hwhole := tokenize_append_newline htokenize second
    cases hsecond : tokenize second with
    | error error =>
        rw [hsecond] at hwhole
        rw [read_of_tokenize_error hsecond, read_of_tokenize_error hwhole]
        rfl
    | ok later =>
        rw [hsecond] at hwhole
        rw [read_of_tokenize hsecond, read_of_tokenize hwhole, parse_append hparse, parse_map]
        cases parse later <;> rfl
  · have htokens : (lexemes.map (Lexeme.map (· + 1))).map Lexeme.token = flatten program := by
      rw [map_token_map, flatten_of_parse hparse]
    rw [read_eq_ok_iff]
    refine ⟨_, tokenize_bracketed htokenize, ?_⟩
    apply parse_of_flatten
    rw [List.map_append, List.map_cons, htokens]
    simp [flatten, Node.flatten]

/-- The first text ends in a comment, and the errors of both stages carry over. -/
theorem read_append_newline_of_comment :
    read "(a) b;c" = .ok [.expression [.symbol "a"], .symbol "b"] ∧
      read ("(a) b;c" ++ "\n" ++ "\"d\\") = .error (.lexical (.danglingEscape "d" 8)) ∧
      read ("(a) b;c" ++ "\n" ++ "d)") = .error (.bracket (.superfluous 9)) ∧
      read ("(" ++ "(a) b;c" ++ "\n" ++ ")") =
        .ok [.expression [.expression [.symbol "a"], .symbol "b"]] := by
  have hread : read "(a) b;c" = .ok [.expression [.symbol "a"], .symbol "b"] := by cbv
  have hlexical : read "\"d\\" = .error (.lexical (.danglingEscape "d" 0)) := by cbv
  have hbracket : read "d)" = .error (.bracket (.superfluous 1)) := by cbv
  obtain ⟨hbelow, hinside⟩ := read_append_newline hread
  refine ⟨hread, ?_, ?_, hinside⟩
  · rw [hbelow, hlexical]
    rfl
  · rw [hbelow, hbracket]
    rfl

end SexpReader
