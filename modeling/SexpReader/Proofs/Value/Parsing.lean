/-
# Parsing sequences of anything

The builder may be handed any values and goes by their kinds. What has a kind that is none of
tokens is passed over, as nodes are, and where all else are lexemes, or have the three fields of
one, the outcome is that of the lexemes. The first value without a kind ends the run: whether it
is reached depends only on the lexemes in front of it, which are taken as long as none of their
brackets is superfluous.
-/

import SexpReader.Proofs.Node.Concatenation
import SexpReader.Value.Reading

namespace SexpReader

/-! ## Taking lexemes -/

namespace Builder

variable {ρ : Type}

/-- What is taken has no superfluous bracket. -/
theorem Builds.noSuperfluous {consumed : List (Lexeme ρ)} {builder : Builder ρ}
    (h : Builds consumed builder) : NoSuperfluous (consumed.map Lexeme.token) := by
  induction h with
  | outermost hconsumed =>
      rw [hconsumed]
      exact (isBalanced_flatten _).noSuperfluous
  | inner hbefore hopener hinside ih =>
      rw [List.map_append, List.map_cons, hopener, hinside]
      exact ih.append ((isBalanced_flatten _).noSuperfluous.cons (by simp))

end Builder

/-! ## What values stand for -/

namespace Value

/-- Whether a value is a node. -/
def isNode : Value → Bool
  | node _ => true
  | _ => false

/-- Whether a value has a kind, of whatever class it is and whatever that kind may be. -/
def hasKind (value : Value) : Bool :=
  (value.field "kind").isOk

theorem fieldAmong_eq_error {value : Value} {fields : List (String × Value)} {name : String}
    {fault : Fault} (h : value.fieldAmong fields name = .error fault) :
    fault = value.lacks name := by
  rw [fieldAmong] at h
  split at h
  · cases h
  · exact (Except.error.inj h).symm

/-- There is one fault that a missing kind can be. -/
theorem eq_lacks_of_field_kind {value : Value} {fault : Fault}
    (h : value.field "kind" = .error fault) : fault = value.lacks "kind" := by
  cases value with
  | report _ _ _ _ _ | foreign _ _ _ => exact fieldAmong_eq_error h
  | lexeme _ _ | node _ => cases h
  | _ =>
      cases h
      rfl

theorem field_kind_of_hasKind {value : Value} (h : value.hasKind = false) :
    value.field "kind" = .error (value.lacks "kind") := by
  cases hkind : value.field "kind" with
  | ok kind =>
      rw [hasKind, hkind] at h
      cases h
  | error fault => rw [eq_lacks_of_field_kind hkind]

end Value

end SexpReader
