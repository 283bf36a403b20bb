/-
# Building programs by looking ahead

The reading of brackets that needs no stack: at an open bracket look ahead for the bracket
that closes it, read what lies between the two as the children, and go on behind it. This
is the rule that the one pass of the builder has to agree with, errors included.
-/

import SexpReader.Node
import SexpReader.Token
import SexpReader.Diagnostic

namespace SexpReader

variable {ρ : Type}

/-- The lexemes before and behind the bracket that closes the given number of open
brackets and one more, if there is one. -/
def splitAtClose? : Nat → List (Lexeme ρ) → Option (List (Lexeme ρ) × List (Lexeme ρ))
  | _, [] => none
  | depth, lexeme :: rest =>
      let continueAt (depth : Nat) : Option (List (Lexeme ρ) × List (Lexeme ρ)) :=
        (splitAtClose? depth rest).map fun parts => (lexeme :: parts.1, parts.2)
      match lexeme.token, depth with
      | .closeBracket, 0 => some ([], rest)
      | .closeBracket, depth + 1 => continueAt depth
      | .openBracket, depth => continueAt (depth + 1)
      | .symbol _, depth | .string _, depth => continueAt depth

/-- Both parts together are shorter by the bracket between them. -/
theorem length_of_splitAtClose? {depth : Nat} {lexemes : List (Lexeme ρ)}
    {parts : List (Lexeme ρ) × List (Lexeme ρ)} (h : splitAtClose? depth lexemes = some parts) :
    parts.1.length + parts.2.length + 1 = lexemes.length := by
  induction lexemes generalizing depth parts with
  | nil => simp [splitAtClose?] at h
  | cons lexeme rest ih =>
      have go {depth : Nat} (h : (splitAtClose? depth rest).map
          (fun parts => (lexeme :: parts.1, parts.2)) = some parts) :
          parts.1.length + parts.2.length + 1 = (lexeme :: rest).length := by
        obtain ⟨inner, found, rfl⟩ := Option.map_eq_some_iff.1 h
        have := ih found
        simp only [List.length_cons]
        omega
      unfold splitAtClose? at h
      split at h
      · cases h
        simp
      · exact go h
      · exact go h
      · exact go h
      · exact go h

/-- The program that a sequence of lexemes stands for, read with lookahead. -/
def parseByLookahead (lexemes : List (Lexeme ρ)) : Except (BracketError ρ) Program :=
  match lexemes with
  | [] => .ok []
  | lexeme :: rest =>
      match lexeme.token with
      | .symbol text => (parseByLookahead rest).map (.symbol text :: ·)
      | .string text => (parseByLookahead rest).map (.string text :: ·)
      | .closeBracket => .error (.superfluous lexeme.position)
      | .openBracket =>
          match _found : splitAtClose? 0 rest with
          | none => .error (.unclosed lexeme.position)
          | some (inner, behind) => do
              let children ← parseByLookahead inner
              let nodes ← parseByLookahead behind
              return .expression children :: nodes
termination_by lexemes.length
decreasing_by
  · simp
  · simp
  · have shorter := length_of_splitAtClose? _found
    simp only [List.length_cons] at shorter ⊢
    omega
  · have shorter := length_of_splitAtClose? _found
    simp only [List.length_cons] at shorter ⊢
    omega

end SexpReader
