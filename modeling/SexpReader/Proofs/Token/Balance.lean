/-
# Balance of brackets

Sequences of tokens seen only through their brackets. In a sequence without superfluous
brackets no prefix closes more than it opens, and in a balanced one all that is opened is
closed as well. An open bracket has a partner exactly when what follows it, taken alone,
has a superfluous bracket, and the first such bracket is the partner.
-/

import Mathlib.Data.List.Induction
import SexpReader.Node.Flatten

namespace SexpReader

/-- The number of open brackets. -/
def opens (tokens : List Token) : Nat :=
  tokens.count .openBracket

/-- The number of close brackets. -/
def closes (tokens : List Token) : Nat :=
  tokens.count .closeBracket

/-- When a number of brackets is open already, no prefix closes more than is open. -/
def ClosesAtMost (depth : Nat) (tokens : List Token) : Prop :=
  ∀ front : List Token, front <+: tokens → closes front ≤ opens front + depth

/-- No prefix has more close brackets than open ones. -/
def NoSuperfluous (tokens : List Token) : Prop :=
  ∀ front : List Token, front <+: tokens → closes front ≤ opens front

/-- Every bracket has a partner. -/
structure IsBalanced (tokens : List Token) : Prop where
  noSuperfluous : NoSuperfluous tokens
  opens_eq_closes : opens tokens = closes tokens

/-- Whether the tokens behind an open bracket hold the bracket that closes it, which is the
one with a balanced sequence in between. -/
def HasPartner (behind : List Token) : Prop :=
  ∃ inner rest, behind = inner ++ .closeBracket :: rest ∧ IsBalanced inner

@[simp]
theorem opens_append (first second : List Token) :
    opens (first ++ second) = opens first + opens second :=
  List.count_append

@[simp]
theorem closes_append (first second : List Token) :
    closes (first ++ second) = closes first + closes second :=
  List.count_append

@[simp]
theorem opens_cons (token : Token) (tokens : List Token) :
    opens (token :: tokens) = opens tokens + if token = .openBracket then 1 else 0 := by
  simp [opens, List.count_cons]

@[simp]
theorem closes_cons (token : Token) (tokens : List Token) :
    closes (token :: tokens) = closes tokens + if token = .closeBracket then 1 else 0 := by
  simp [closes, List.count_cons]

theorem opens_eq_zero {tokens : List Token} (h : ∀ token ∈ tokens, token = .closeBracket) :
    opens tokens = 0 := by
  apply List.count_eq_zero.2
  intro hopen
  cases h _ hopen

theorem closes_eq_length {tokens : List Token} (h : ∀ token ∈ tokens, token = .closeBracket) :
    closes tokens = tokens.length := by
  apply List.count_eq_length.2
  intro token htoken
  exact (h token htoken).symm

@[simp]
theorem opens_nil : opens [] = 0 := rfl

@[simp]
theorem closes_nil : closes [] = 0 := rfl

namespace ClosesAtMost

theorem nil (depth : Nat) : ClosesAtMost depth [] := by
  intro front hfront
  rw [List.prefix_nil.1 hfront]
  exact Nat.zero_le _

theorem cons {depth depth' : Nat} {token : Token} {tokens : List Token}
    (h : ClosesAtMost depth' tokens)
    (hstep : closes [token] + depth' ≤ opens [token] + depth) :
    ClosesAtMost depth (token :: tokens) := by
  intro front hfront
  rcases List.prefix_cons_iff.1 hfront with rfl | ⟨front, rfl, hinside⟩
  · exact Nat.zero_le _
  · have hcount := h front hinside
    rw [← List.singleton_append, closes_append, opens_append]
    omega

theorem of_length_le {depth : Nat} {tokens : List Token} (h : tokens.length ≤ depth) :
    ClosesAtMost depth tokens := by
  intro front hfront
  have hcount : closes front ≤ front.length := List.count_le_length
  have hshort := hfront.length_le
  omega

end ClosesAtMost

namespace NoSuperfluous

theorem closes_le {tokens : List Token} (h : NoSuperfluous tokens) :
    closes tokens ≤ opens tokens :=
  h tokens List.prefix_rfl

theorem of_append {first second : List Token} (h : NoSuperfluous (first ++ second)) :
    NoSuperfluous first := by
  intro front hfront
  exact h front (List.prefix_append_of_prefix hfront)

theorem nil : NoSuperfluous [] :=
  ClosesAtMost.nil 0

/-- What follows may close as much as is still open. -/
theorem append_of_closesAtMost {depth : Nat} {first second : List Token}
    (hfirst : NoSuperfluous first) (hsecond : ClosesAtMost depth second)
    (hopen : closes first + depth ≤ opens first) : NoSuperfluous (first ++ second) := by
  intro front hfront
  rcases List.prefix_or_prefix_of_prefix hfront (List.prefix_append first second) with
    hinside | ⟨more, rfl⟩
  · exact hfirst front hinside
  · have hmore := hsecond more ((List.prefix_append_right_inj first).1 hfront)
    rw [closes_append, opens_append]
    omega

theorem append {first second : List Token} (hfirst : NoSuperfluous first)
    (hsecond : NoSuperfluous second) : NoSuperfluous (first ++ second) := by
  have hnone : ClosesAtMost 0 second := hsecond
  exact hfirst.append_of_closesAtMost hnone hfirst.closes_le

/-- A token that closes nothing can be added in front. -/
theorem cons {token : Token} (htoken : token ≠ .closeBracket) {tokens : List Token}
    (h : NoSuperfluous tokens) : NoSuperfluous (token :: tokens) := by
  have hnone : ClosesAtMost 0 tokens := h
  have hstep : closes [token] + 0 ≤ opens [token] + 0 := by simp [htoken]
  exact hnone.cons hstep

end NoSuperfluous

namespace IsBalanced

theorem nil : IsBalanced [] := ⟨NoSuperfluous.nil, rfl⟩

theorem append {first second : List Token} (hfirst : IsBalanced first)
    (hsecond : IsBalanced second) : IsBalanced (first ++ second) where
  noSuperfluous := hfirst.noSuperfluous.append hsecond.noSuperfluous
  opens_eq_closes := by
    rw [opens_append, closes_append, hfirst.opens_eq_closes, hsecond.opens_eq_closes]

/-- Brackets around a balanced sequence keep it balanced. -/
theorem bracketed {inner : List Token} (h : IsBalanced inner) :
    IsBalanced (.openBracket :: inner ++ [.closeBracket]) where
  noSuperfluous := by
    intro front hfront
    rcases List.prefix_concat_iff.1 hfront with rfl | hinside
    · simp [h.opens_eq_closes]
    · exact h.noSuperfluous.cons (by simp) front hinside
  opens_eq_closes := by simp [h.opens_eq_closes]

end IsBalanced

mutual

theorem Node.isBalanced_flatten (node : Node) : IsBalanced node.flatten := by
  match node with
  | .symbol _ | .string _ =>
      rw [Node.flatten]
      exact ⟨NoSuperfluous.nil.cons (by simp), by simp⟩
  | .expression children =>
      rw [Node.flatten]
      exact (isBalanced_flatten children).bracketed

/-- The tokens of a program are balanced. -/
theorem isBalanced_flatten (program : Program) : IsBalanced (flatten program) := by
  match program with
  | [] => exact IsBalanced.nil
  | node :: nodes =>
      rw [flatten]
      exact node.isBalanced_flatten.append (isBalanced_flatten nodes)

end

namespace HasPartner

theorem append {behind : List Token} (h : HasPartner behind) (more : List Token) :
    HasPartner (behind ++ more) := by
  obtain ⟨inner, rest, rfl, hinner⟩ := h
  exact ⟨inner, rest ++ more, by simp, hinner⟩

/-- A partner closes more than was opened behind its bracket. -/
theorem not_noSuperfluous {behind : List Token} (h : HasPartner behind) :
    ¬ NoSuperfluous behind := by
  obtain ⟨inner, rest, rfl, hinner⟩ := h
  intro hnone
  have hcount := hnone (inner ++ [.closeBracket]) (by simp)
  have hclosed := hinner.opens_eq_closes
  simp only [closes_append, closes_cons, closes_nil, opens_append, opens_cons, opens_nil,
    reduceCtorEq, if_true, if_false] at hcount
  omega

end HasPartner

/-- The first superfluous bracket has a balanced sequence in front. -/
theorem hasPartner_of_not_noSuperfluous {behind : List Token} (h : ¬ NoSuperfluous behind) :
    HasPartner behind := by
  induction behind using List.reverseRecOn with
  | nil => exact absurd NoSuperfluous.nil h
  | append_singleton init token ih =>
      by_cases hinit : NoSuperfluous init
      · -- All prefixes but the whole sequence are fine, so its last token is at fault.
        have hwhole : opens (init ++ [token]) < closes (init ++ [token]) := by
          by_contra hle
          refine h fun front hfront => ?_
          rcases List.prefix_concat_iff.1 hfront with rfl | hinside
          · exact Nat.not_lt.1 hle
          · exact hinit front hinside
        have hle := hinit.closes_le
        have htoken : token = .closeBracket := by
          by_contra hother
          simp only [opens_append, closes_append, closes_cons, closes_nil, if_neg hother] at hwhole
          omega
        subst htoken
        have hlast : opens init < closes init + 1 := by simpa using hwhole
        exact ⟨init, [], rfl, hinit, Nat.le_antisymm (Nat.le_of_lt_succ hlast) hle⟩
      · exact (ih hinit).append [token]

theorem hasPartner_iff {behind : List Token} : HasPartner behind ↔ ¬ NoSuperfluous behind :=
  ⟨HasPartner.not_noSuperfluous, hasPartner_of_not_noSuperfluous⟩

/-- In a balanced sequence every open bracket has a partner. -/
theorem IsBalanced.hasPartner {front behind : List Token}
    (h : IsBalanced (front ++ .openBracket :: behind)) : HasPartner behind := by
  rw [hasPartner_iff]
  intro hnone
  have hfront := h.noSuperfluous.of_append.closes_le
  have hbehind := hnone.closes_le
  have hclosed : opens front + (opens behind + 1) = closes front + closes behind := by
    simpa using h.opens_eq_closes
  omega

end SexpReader
