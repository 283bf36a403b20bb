/-
# The verdict on a sequence of lexemes

Which sequences of lexemes are refused, with which error and at which bracket, told by
counting brackets. Reading with lookahead has an `Outcome` just as building has, and an
outcome leaves no choice, so both readings agree in their programs and in their errors.
-/

import SexpReader.Node.Lookahead
import SexpReader.Proofs.List.Splitting
import SexpReader.Proofs.Node.Building

namespace SexpReader

variable {ρ : Type}

/-- The verdict on a sequence, apart from the program. A prefix that closes too much decides
at its last bracket, whatever follows. Otherwise too many open brackets decide at the
earliest one without a partner. -/
inductive Verdict (lexemes : List (Lexeme ρ)) : Except (BracketError ρ) Unit → Prop
  | superfluous {before after : List (Lexeme ρ)} {close : Lexeme ρ} :
      lexemes = before ++ close :: after →
      NoSuperfluous (before.map Lexeme.token) →
      opens ((before ++ [close]).map Lexeme.token) <
        closes ((before ++ [close]).map Lexeme.token) →
      Verdict lexemes (.error (.superfluous close.position))
  | unclosed {before after : List (Lexeme ρ)} {opener : Lexeme ρ} :
      NoSuperfluous (lexemes.map Lexeme.token) →
      closes (lexemes.map Lexeme.token) < opens (lexemes.map Lexeme.token) →
      lexemes = before ++ opener :: after →
      opener.token = .openBracket → ¬ HasPartner (after.map Lexeme.token) →
      (∀ front earlier behind, before = front ++ earlier :: behind →
        earlier.token = .openBracket →
        HasPartner ((behind ++ opener :: after).map Lexeme.token)) →
      Verdict lexemes (.error (.unclosed opener.position))
  | complete :
      NoSuperfluous (lexemes.map Lexeme.token) →
      ¬ closes (lexemes.map Lexeme.token) < opens (lexemes.map Lexeme.token) →
      Verdict lexemes (.ok ())

namespace Verdict

variable {lexemes : List (Lexeme ρ)}

/-- A prefix that closes too much rules out every sequence that has it in front. -/
theorem not_noSuperfluous_of_lt {before after : List (Lexeme ρ)} {close : Lexeme ρ}
    (hlt : opens ((before ++ [close]).map Lexeme.token) <
      closes ((before ++ [close]).map Lexeme.token)) :
    ¬ NoSuperfluous ((before ++ close :: after).map Lexeme.token) := by
  intro hnone
  have hle := hnone ((before ++ [close]).map Lexeme.token) (by simp)
  omega

/-- There is no choice between two verdicts. -/
theorem unique {first second : Except (BracketError ρ) Unit} (hfirst : Verdict lexemes first)
    (hsecond : Verdict lexemes second) : first = second := by
  cases hfirst with
  | @superfluous before after close hsplit hnone hlt =>
      have hbad : ¬ NoSuperfluous (lexemes.map Lexeme.token) := by
        rw [hsplit]
        exact not_noSuperfluous_of_lt hlt
      cases hsecond with
      | @superfluous before' after' close' hsplit' hnone' hlt' =>
          rcases append_cons_inj_or (hsplit.symm.trans hsplit') with
            ⟨-, rfl, -⟩ | ⟨between, rfl, -⟩ | ⟨between, rfl, -⟩
          · rfl
          · exact absurd hnone' (not_noSuperfluous_of_lt hlt)
          · exact absurd hnone (not_noSuperfluous_of_lt hlt')
      | unclosed hnone' _ _ _ _ _ => exact absurd hnone' hbad
      | complete hnone' _ => exact absurd hnone' hbad
  | @unclosed before after opener hnone hlt hsplit hopener hopen hearlier =>
      cases hsecond with
      | superfluous hsplit' _ hlt' =>
          rw [hsplit'] at hnone
          exact absurd hnone (not_noSuperfluous_of_lt hlt')
      | @unclosed before' after' opener' _ _ hsplit' hopener' hopen' hearlier' =>
          rcases append_cons_inj_or (hsplit.symm.trans hsplit') with
            ⟨-, rfl, -⟩ | ⟨between, hfront, rfl⟩ | ⟨between, hfront, rfl⟩
          · rfl
          · exact absurd (hearlier' before opener between hfront hopener) hopen
          · exact absurd (hearlier before' opener' between hfront hopener') hopen'
      | complete _ hle => exact absurd hlt hle
  | complete hnone hle =>
      cases hsecond with
      | superfluous hsplit' _ hlt' =>
          rw [hsplit'] at hnone
          exact absurd hnone (not_noSuperfluous_of_lt hlt')
      | unclosed _ hlt' _ _ _ _ => exact absurd hlt' hle
      | complete _ _ => rfl

end Verdict

namespace Outcome

variable {lexemes : List (Lexeme ρ)} {outcome : Except (BracketError ρ) Program}

/-- Counting brackets gives the verdict that the outcome calls for. -/
theorem verdict (h : Outcome lexemes outcome) : Verdict lexemes (outcome.map fun _ => ()) := by
  cases h with
  | @complete program hall =>
      have hbalanced := isBalanced_flatten program
      refine Verdict.complete ?_ ?_
      · rw [hall]
        exact hbalanced.noSuperfluous
      · rw [hall, hbalanced.opens_eq_closes]
        exact Nat.lt_irrefl _
  | @superfluous before after close program hsplit hfront hclose =>
      refine Verdict.superfluous hsplit ?_ (opens_lt_closes_concat hfront hclose)
      rw [hfront]
      exact (isBalanced_flatten program).noSuperfluous
  | @unclosed before after opener program hsplit hfront hopener hafter =>
      have hbalanced := isBalanced_flatten program
      have htokens : lexemes.map Lexeme.token =
          flatten program ++ .openBracket :: after.map Lexeme.token := by
        simp [hsplit, hfront, hopener]
      have hle := hafter.closes_le
      refine Verdict.unclosed ?_ ?_ hsplit hopener (fun h => h.not_noSuperfluous hafter) ?_
      · rw [htokens]
        exact hbalanced.noSuperfluous.append (hafter.cons (by simp))
      · simp only [htokens, closes_append, closes_cons, opens_append, opens_cons, reduceCtorEq,
          if_true, if_false, hbalanced.opens_eq_closes]
        omega
      · -- An open bracket of the program in front has its partner inside that program.
        intro front earlier behind hbefore hearlier
        have hinside : IsBalanced
            (front.map Lexeme.token ++ .openBracket :: behind.map Lexeme.token) := by
          rw [← hfront, hbefore, List.map_append, List.map_cons, hearlier] at hbalanced
          exact hbalanced
        rw [List.map_append]
        exact hinside.hasPartner.append _

/-- There is no choice between two outcomes. -/
theorem unique {other : Except (BracketError ρ) Program} (hfirst : Outcome lexemes outcome)
    (hsecond : Outcome lexemes other) : outcome = other := by
  have hsame := hfirst.verdict.unique hsecond.verdict
  cases outcome with
  | error error =>
      cases other with
      | error error' => rw [Except.error.inj hsame]
      | ok program' => cases hsame
  | ok program =>
      cases other with
      | error error' => cases hsame
      | ok program' =>
          cases hfirst with
          | complete hall =>
              cases hsecond with
              | complete hall' => rw [flatten_injective (hall.symm.trans hall')]

/-- A program in front of a sequence comes first in the outcome and changes no error. -/
theorem prepend (h : Outcome lexemes outcome) {front : List (Lexeme ρ)} {program : Program}
    (hfront : front.map Lexeme.token = flatten program) :
    Outcome (front ++ lexemes) (outcome.map (program ++ ·)) := by
  have hjoin {before : List (Lexeme ρ)} {nodes : Program}
      (hbefore : before.map Lexeme.token = flatten nodes) :
      (front ++ before).map Lexeme.token = flatten (program ++ nodes) := by
    rw [List.map_append, hfront, hbefore, flatten_append]
  cases h with
  | complete hall => exact Outcome.complete (hjoin hall)
  | @superfluous before after close _ hsplit hbefore hclose =>
      have hwhole : front ++ lexemes = (front ++ before) ++ close :: after := by
        rw [hsplit, List.append_assoc]
      exact Outcome.superfluous hwhole (hjoin hbefore) hclose
  | @unclosed before after opener _ hsplit hbefore hopener hafter =>
      have hwhole : front ++ lexemes = (front ++ before) ++ opener :: after := by
        rw [hsplit, List.append_assoc]
      exact Outcome.unclosed hwhole (hjoin hbefore) hopener hafter

end Outcome

/-! ## Reading with lookahead -/

/-- One look ahead either finds the partner or goes on with the brackets that are open
behind the lexeme. -/
theorem splitAtClose?_cons (depth : Nat) (lexeme : Lexeme ρ) (rest : List (Lexeme ρ)) :
    (lexeme.token = .closeBracket ∧ depth = 0 ∧
        splitAtClose? depth (lexeme :: rest) = some ([], rest)) ∨
      ∃ depth', closes [lexeme.token] + depth' = opens [lexeme.token] + depth ∧
        splitAtClose? depth (lexeme :: rest) =
          (splitAtClose? depth' rest).map fun parts => (lexeme :: parts.1, parts.2) := by
  obtain ⟨token, position⟩ := lexeme
  cases token with
  | openBracket => exact Or.inr ⟨depth + 1, by simp [Nat.add_comm], rfl⟩
  | symbol text => exact Or.inr ⟨depth, by simp, rfl⟩
  | string text => exact Or.inr ⟨depth, by simp, rfl⟩
  | closeBracket =>
      cases depth with
      | zero => exact Or.inl ⟨rfl, rfl, rfl⟩
      | succ depth => exact Or.inr ⟨depth, by simp [Nat.add_comm], rfl⟩

/-- What lies in front of the bracket that is found closes just what is open. -/
theorem splitAtClose?_eq_some {depth : Nat} {lexemes inner behind : List (Lexeme ρ)}
    (h : splitAtClose? depth lexemes = some (inner, behind)) :
    ∃ close : Lexeme ρ, close.token = .closeBracket ∧ lexemes = inner ++ close :: behind ∧
      ClosesAtMost depth (inner.map Lexeme.token) ∧
      closes (inner.map Lexeme.token) = opens (inner.map Lexeme.token) + depth := by
  induction lexemes generalizing depth inner with
  | nil => cases h
  | cons lexeme rest ih =>
      rcases splitAtClose?_cons depth lexeme rest with ⟨hclose, rfl, hhere⟩ | ⟨depth', hdepth, hlater⟩
      · cases hhere.symm.trans h
        exact ⟨lexeme, hclose, rfl, ClosesAtMost.nil 0, rfl⟩
      · obtain ⟨parts, hfound, hparts⟩ := Option.map_eq_some_iff.1 (hlater.symm.trans h)
        cases hparts
        obtain ⟨close, hclose, rfl, hinner, hcount⟩ := ih hfound
        refine ⟨close, hclose, rfl, hinner.cons (Nat.le_of_eq hdepth), ?_⟩
        rw [List.map_cons, ← List.singleton_append, closes_append, opens_append]
        omega

/-- If nothing is found, what is open stays open. -/
theorem splitAtClose?_eq_none {depth : Nat} {lexemes : List (Lexeme ρ)}
    (h : splitAtClose? depth lexemes = none) : ClosesAtMost depth (lexemes.map Lexeme.token) := by
  induction lexemes generalizing depth with
  | nil => exact ClosesAtMost.nil depth
  | cons lexeme rest ih =>
      rcases splitAtClose?_cons depth lexeme rest with ⟨-, -, hhere⟩ | ⟨depth', hdepth, hlater⟩
      · cases hhere.symm.trans h
      · exact (ih (Option.map_eq_none_iff.1 (hlater.symm.trans h))).cons (Nat.le_of_eq hdepth)

theorem parseByLookahead_outcome (lexemes : List (Lexeme ρ)) :
    Outcome lexemes (parseByLookahead lexemes) := by
  fun_induction parseByLookahead lexemes with
  | case1 => exact Outcome.complete rfl
  | case2 lexeme rest text htoken ih =>
      have hfront : [lexeme].map Lexeme.token = flatten [.symbol text] := by
        simp [htoken, flatten, Node.flatten]
      exact ih.prepend hfront
  | case3 lexeme rest text htoken ih =>
      have hfront : [lexeme].map Lexeme.token = flatten [.string text] := by
        simp [htoken, flatten, Node.flatten]
      exact ih.prepend hfront
  | case4 lexeme rest htoken =>
      have hsplit : lexeme :: rest = [] ++ lexeme :: rest := rfl
      have hempty : List.map Lexeme.token ([] : List (Lexeme ρ)) = flatten [] := rfl
      exact Outcome.superfluous hsplit hempty htoken
  | case5 lexeme rest htoken hfound =>
      have hsplit : lexeme :: rest = [] ++ lexeme :: rest := rfl
      have hempty : List.map Lexeme.token ([] : List (Lexeme ρ)) = flatten [] := rfl
      exact Outcome.unclosed hsplit hempty htoken (splitAtClose?_eq_none hfound)
  | case6 lexeme rest htoken inner behind hfound ihinner ihbehind =>
      obtain ⟨close, hclose, rfl, hinner, hcount⟩ := splitAtClose?_eq_some hfound
      obtain ⟨children, hchildren, hflatten⟩ := ihinner.exists_program ⟨hinner, hcount.symm⟩
      have hfront : (lexeme :: inner ++ [close]).map Lexeme.token =
          flatten [.expression children] := by
        simp [htoken, hclose, hflatten, flatten, Node.flatten]
      have hsplit : lexeme :: (inner ++ close :: behind) =
          (lexeme :: inner ++ [close]) ++ behind := by simp
      have hwhole := ihbehind.prepend hfront
      rw [hchildren, hsplit]
      cases hrest : parseByLookahead behind with
      | error error =>
          rw [hrest] at hwhole
          exact hwhole
      | ok nodes =>
          rw [hrest] at hwhole
          exact hwhole

/-- One pass with a stack gives the same program, or the same error at the same bracket, as
reading with lookahead, and it gives the verdict that counting brackets gives. -/
theorem parse_eq_parseByLookahead_and_verdict (lexemes : List (Lexeme ρ)) :
    parse lexemes = parseByLookahead lexemes ∧
      ∀ outcome, (parse lexemes).map (fun _ => ()) = outcome ↔ Verdict lexemes outcome := by
  have hparse := parse_outcome lexemes
  refine ⟨hparse.unique (parseByLookahead_outcome lexemes), fun outcome => ⟨?_, ?_⟩⟩
  · rintro rfl
    exact hparse.verdict
  · intro hverdict
    exact hparse.verdict.unique hverdict

end SexpReader
