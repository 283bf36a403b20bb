/-
# Building programs from lexemes

One pass over the lexemes with a stack of frames. An open bracket sets the nodes of the
enclosing level aside in a frame and starts an empty level; a close bracket makes the
current level an expression and returns to the level set aside. The place of each open
bracket is kept, because the first bracket that is never closed is the one at the bottom
of the stack.
-/

import SexpReader.Node
import SexpReader.Token
import SexpReader.Diagnostic

namespace SexpReader

/-- A level that waits for an inner one to end: its nodes so far, and the place of the
bracket that opened the inner level. -/
structure Frame (ρ : Type) where
  siblings : Array Node
  openedAt : ρ

/-- The frames of the enclosing levels, innermost first, and the nodes of the current
level. -/
structure Builder (ρ : Type) where
  frames : List (Frame ρ)
  nodes : Array Node

namespace Builder

variable {ρ : Type}

/-- The builder before the first lexeme. -/
def empty : Builder ρ := ⟨[], #[]⟩

/-- Put a complete node at the end of the current level. -/
def append (builder : Builder ρ) (node : Node) : Builder ρ :=
  { builder with nodes := builder.nodes.push node }

/-- Take one lexeme. Only a close bracket can fail, where no frame is open. -/
def push (builder : Builder ρ) (lexeme : Lexeme ρ) : Except (BracketError ρ) (Builder ρ) :=
  match lexeme.token with
  | .openBracket =>
      .ok { frames := ⟨builder.nodes, lexeme.position⟩ :: builder.frames, nodes := #[] }
  | .closeBracket =>
      match builder.frames with
      | [] => .error (.superfluous lexeme.position)
      | frame :: outer =>
          .ok { frames := outer
                nodes := frame.siblings.push (.expression builder.nodes.toList) }
  | .symbol text => .ok (builder.append (.symbol text))
  | .string text => .ok (builder.append (.string text))

/-- The program, if every bracket is closed; otherwise the outermost open one is at fault.
-/
def finish (builder : Builder ρ) : Except (BracketError ρ) Program :=
  match builder.frames.getLast? with
  | none => .ok builder.nodes.toList
  | some frame => .error (.unclosed frame.openedAt)

end Builder

/-- The program that a sequence of lexemes stands for. -/
def parse {ρ : Type} (lexemes : List (Lexeme ρ)) : Except (BracketError ρ) Program := do
  (← lexemes.foldlM Builder.push Builder.empty).finish

end SexpReader
