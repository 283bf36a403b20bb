/-
# Building and flattening

Building a program from lexemes undoes flattening. `Builds` follows the builder lexeme by
lexeme: below each open bracket lies a complete sequence of nodes. What becomes of a whole
sequence is an `Outcome`, which depends on the first bracket at fault and on the program in
front of it.
-/

import SexpReader.Node.Builder
import SexpReader.Proofs.Token.Balance

namespace SexpReader

variable {ρ : Type}

namespace Builder

/-- How the lexemes taken so far explain a builder. The nodes of the outermost level come
first; each frame adds an open bracket and the nodes behind it. -/
inductive Builds : List (Lexeme ρ) → Builder ρ → Prop
  | outermost {consumed : List (Lexeme ρ)} {nodes : Array Node} :
      consumed.map Lexeme.token = flatten nodes.toList → Builds consumed ⟨[], nodes⟩
  | inner {before inside : List (Lexeme ρ)} {opener : Lexeme ρ} {frames : List (Frame ρ)}
      {siblings nodes : Array Node} :
      Builds before ⟨frames, siblings⟩ → opener.token = .openBracket →
      inside.map Lexeme.token = flatten nodes.toList →
      Builds (before ++ opener :: inside) ⟨⟨siblings, opener.position⟩ :: frames, nodes⟩

/-- Only a close bracket outside all others is refused. -/
theorem push_eq_error {builder : Builder ρ} {lexeme : Lexeme ρ} {error : BracketError ρ}
    (h : builder.push lexeme = .error error) :
    lexeme.token = .closeBracket ∧ builder.frames = [] ∧
      error = .superfluous lexeme.position := by
  obtain ⟨frames, nodes⟩ := builder
  obtain ⟨token, position⟩ := lexeme
  cases token with
  | openBracket | symbol _ | string _ => cases h
  | closeBracket =>
      cases frames with
      | nil =>
          cases h
          exact ⟨rfl, rfl, rfl⟩
      | cons _ _ => cases h

namespace Builds

theorem empty : Builds [] (Builder.empty : Builder ρ) :=
  Builds.outermost rfl

/-- A complete node goes to the end of the current level. -/
theorem append_node {consumed more : List (Lexeme ρ)} {frames : List (Frame ρ)}
    {nodes : Array Node} {node : Node} (h : Builds consumed ⟨frames, nodes⟩)
    (hmore : more.map Lexeme.token = node.flatten) :
    Builds (consumed ++ more) ⟨frames, nodes.push node⟩ := by
  have hlonger {inside : List (Lexeme ρ)} (hinside : inside.map Lexeme.token = flatten nodes.toList) :
      (inside ++ more).map Lexeme.token = flatten (nodes.push node).toList := by
    rw [List.map_append, hinside, hmore, Array.toList_push, flatten_append, flatten, flatten,
      List.append_nil]
  cases h with
  | outermost hconsumed => exact Builds.outermost (hlonger hconsumed)
  | inner hbefore hopener hinside =>
      rw [List.append_assoc, List.cons_append]
      exact Builds.inner hbefore hopener (hlonger hinside)

/-- Every lexeme that is taken keeps the builder explained. -/
theorem push {consumed : List (Lexeme ρ)} {builder next : Builder ρ} {lexeme : Lexeme ρ}
    (h : Builds consumed builder) (hpush : builder.push lexeme = .ok next) :
    Builds (consumed ++ [lexeme]) next := by
  obtain ⟨token, position⟩ := lexeme
  cases token with
  | symbol text =>
      cases hpush
      exact h.append_node (by simp [Node.flatten])
  | string text =>
      cases hpush
      exact h.append_node (by simp [Node.flatten])
  | openBracket =>
      cases hpush
      exact Builds.inner h rfl rfl
  | closeBracket =>
      cases h with
      | outermost _ => cases hpush
      | @inner before inside opener frames siblings nodes hbefore hopener hinside =>
          cases hpush
          have hnode : List.map Lexeme.token (opener :: inside ++ [⟨.closeBracket, position⟩]) =
              (Node.expression nodes.toList).flatten := by
            rw [List.map_append, List.map_cons, hopener, hinside, Node.flatten]
            rfl
          simpa using hbefore.append_node hnode

/-- The nodes of the outermost level and the first bracket that is still open. -/
theorem exists_bottom {consumed : List (Lexeme ρ)} {builder : Builder ρ} {bottom : Frame ρ}
    (h : Builds consumed builder) (hbottom : builder.frames.getLast? = some bottom) :
    ∃ before opener after, consumed = before ++ opener :: after ∧
      before.map Lexeme.token = flatten bottom.siblings.toList ∧
      opener.token = .openBracket ∧ opener.position = bottom.openedAt ∧
      NoSuperfluous (after.map Lexeme.token) := by
  induction h with
  | outermost _ => cases hbottom
  | @inner before inside opener frames siblings nodes hbefore hopener hinside ih =>
      have hnone : NoSuperfluous (inside.map Lexeme.token) := by
        rw [hinside]
        exact (isBalanced_flatten _).noSuperfluous
      cases hframes : frames with
      | nil =>
          subst hframes
          cases hbottom
          cases hbefore with
          | outermost houter => exact ⟨before, opener, inside, rfl, houter, hopener, rfl, hnone⟩
      | cons frame outer =>
          rw [hframes, List.getLast?_cons_cons, ← hframes] at hbottom
          obtain ⟨front, first, after, rfl, hfront, hfirst, hposition, hafter⟩ := ih hbottom
          refine ⟨front, first, after ++ opener :: inside, by simp, hfront, hfirst, hposition, ?_⟩
          rw [List.map_append, List.map_cons, hopener]
          exact hafter.append (hnone.cons (by simp))

/-- A run over more lexemes either takes them all or stops at a close bracket that has a
program in front of it. -/
theorem foldlM_push {consumed : List (Lexeme ρ)} {builder : Builder ρ}
    (h : Builds consumed builder) (lexemes : List (Lexeme ρ)) :
    (∃ next, lexemes.foldlM Builder.push builder = .ok next ∧ Builds (consumed ++ lexemes) next) ∨
      ∃ before close after program, lexemes = before ++ close :: after ∧
        (consumed ++ before).map Lexeme.token = flatten program ∧
        close.token = .closeBracket ∧
        lexemes.foldlM Builder.push builder = .error (.superfluous close.position) := by
  induction lexemes generalizing consumed builder with
  | nil => exact Or.inl ⟨builder, rfl, by simpa using h⟩
  | cons lexeme rest ih =>
      cases hpush : builder.push lexeme with
      | error error =>
          obtain ⟨hclose, hframes, rfl⟩ := push_eq_error hpush
          obtain ⟨frames, nodes⟩ := builder
          subst hframes
          cases h with
          | outermost hconsumed =>
              refine Or.inr ⟨[], lexeme, rest, nodes.toList, rfl, by simpa using hconsumed, hclose, ?_⟩
              rw [List.foldlM_cons, hpush]
              rfl
      | ok next =>
          have hrun : (lexeme :: rest).foldlM Builder.push builder =
              rest.foldlM Builder.push next := by
            rw [List.foldlM_cons, hpush]
            rfl
          rw [hrun]
          rcases ih (h.push hpush) with ⟨last, hlast, hbuilds⟩ |
            ⟨before, close, after, program, rfl, hfront, hclose, hstop⟩
          · exact Or.inl ⟨last, hlast, by simpa using hbuilds⟩
          · exact Or.inr ⟨lexeme :: before, close, after, program, rfl, by simpa using hfront,
              hclose, hstop⟩

end Builds

mutual

/-- A run over the tokens of a tree puts the tree at the end of the current level. -/
theorem foldlM_push_of_flatten_node (node : Node) {lexemes : List (Lexeme ρ)}
    (h : lexemes.map Lexeme.token = node.flatten) (builder : Builder ρ) :
    lexemes.foldlM push builder = .ok (builder.append node) := by
  match node with
  | .symbol text | .string text =>
      obtain ⟨lexeme, rfl, htoken⟩ := List.map_eq_singleton_iff.1 h
      rw [List.foldlM_cons, push, htoken]
      rfl
  | .expression children =>
      obtain ⟨opener, behind, rfl, hopener, hbehind⟩ := List.map_eq_cons_iff.1 h
      obtain ⟨inside, last, rfl, hinside, hlast⟩ := List.map_eq_append_iff.1 hbehind
      obtain ⟨close, rfl, hclose⟩ := List.map_eq_singleton_iff.1 hlast
      let opened : Builder ρ := ⟨⟨builder.nodes, opener.position⟩ :: builder.frames, #[]⟩
      have hopen : builder.push opener = .ok opened := by rw [push, hopener]
      rw [List.foldlM_cons, hopen]
      show (inside ++ [close]).foldlM push opened = _
      rw [List.foldlM_append, foldlM_push_of_flatten children hinside opened]
      show [close].foldlM push _ = _
      rw [List.foldlM_cons, push, hclose]
      simp [opened, append]

/-- The same for the trees of a program. -/
theorem foldlM_push_of_flatten (program : Program) {lexemes : List (Lexeme ρ)}
    (h : lexemes.map Lexeme.token = flatten program) (builder : Builder ρ) :
    lexemes.foldlM push builder =
      .ok { builder with nodes := builder.nodes ++ program.toArray } := by
  match program with
  | [] =>
      rw [List.map_eq_nil_iff.1 h, List.foldlM_nil, Array.append_empty]
      rfl
  | node :: nodes =>
      obtain ⟨first, rest, rfl, hfirst, hrest⟩ := List.map_eq_append_iff.1 h
      rw [List.foldlM_append, foldlM_push_of_flatten_node node hfirst]
      show rest.foldlM push (builder.append node) = _
      rw [foldlM_push_of_flatten nodes hrest]
      simp [append]

end

end Builder

/-- What becomes of a sequence of lexemes. A program is the outcome of its flattening. In
any other sequence some bracket is the first at fault: a program stands in front of it, and
if it is an open one, no bracket behind it is superfluous. -/
inductive Outcome (lexemes : List (Lexeme ρ)) : Except (BracketError ρ) Program → Prop
  | complete {program : Program} :
      lexemes.map Lexeme.token = flatten program → Outcome lexemes (.ok program)
  | superfluous {before after : List (Lexeme ρ)} {close : Lexeme ρ} {program : Program} :
      lexemes = before ++ close :: after → before.map Lexeme.token = flatten program →
      close.token = .closeBracket → Outcome lexemes (.error (.superfluous close.position))
  | unclosed {before after : List (Lexeme ρ)} {opener : Lexeme ρ} {program : Program} :
      lexemes = before ++ opener :: after → before.map Lexeme.token = flatten program →
      opener.token = .openBracket → NoSuperfluous (after.map Lexeme.token) →
      Outcome lexemes (.error (.unclosed opener.position))

theorem parse_outcome (lexemes : List (Lexeme ρ)) : Outcome lexemes (parse lexemes) := by
  rcases Builder.Builds.empty.foldlM_push lexemes with ⟨last, hrun, hbuilds⟩ |
    ⟨before, close, after, program, hsplit, hfront, hclose, hrun⟩
  · have hparse : parse lexemes = last.finish := by
      rw [parse, hrun]
      rfl
    rw [hparse, Builder.finish]
    cases hbottom : last.frames.getLast? with
    | none =>
        obtain ⟨frames, nodes⟩ := last
        rw [List.getLast?_eq_none_iff] at hbottom
        subst hbottom
        cases hbuilds with
        | outermost hall => exact Outcome.complete hall
    | some bottom =>
        obtain ⟨before, opener, after, hsplit, hfront, hopener, hposition, hafter⟩ :=
          hbuilds.exists_bottom hbottom
        show Outcome lexemes (.error (.unclosed bottom.openedAt))
        rw [← hposition]
        exact Outcome.unclosed hsplit hfront hopener hafter
  · have hparse : parse lexemes = .error (.superfluous close.position) := by
      rw [parse, hrun]
      rfl
    rw [hparse]
    exact Outcome.superfluous hsplit hfront hclose

theorem parse_of_flatten {lexemes : List (Lexeme ρ)} {program : Program}
    (h : lexemes.map Lexeme.token = flatten program) : parse lexemes = .ok program := by
  rw [parse, Builder.foldlM_push_of_flatten program h]
  show Builder.finish ⟨[], #[] ++ program.toArray⟩ = .ok program
  simp [Builder.finish]

theorem flatten_of_parse {lexemes : List (Lexeme ρ)} {program : Program}
    (h : parse lexemes = .ok program) : lexemes.map Lexeme.token = flatten program := by
  have houtcome := parse_outcome lexemes
  rw [h] at houtcome
  cases houtcome with
  | complete hall => exact hall

/-- Different programs have different tokens, because building one from its tokens gives
that program back. -/
theorem flatten_injective : Function.Injective flatten := by
  intro first second hsame
  have hplaced : List.map Lexeme.token ((flatten first).map fun token => ⟨token, ()⟩) =
      flatten first := by simp [Function.comp_def]
  have hfirst := parse_of_flatten hplaced
  have hsecond := parse_of_flatten (hplaced.trans hsame)
  exact Except.ok.inj (hfirst.symm.trans hsecond)

/-- A close bracket behind a program closes more than is open. -/
theorem opens_lt_closes_concat {before : List (Lexeme ρ)} {close : Lexeme ρ} {program : Program}
    (hfront : before.map Lexeme.token = flatten program)
    (hclose : close.token = .closeBracket) :
    opens ((before ++ [close]).map Lexeme.token) <
      closes ((before ++ [close]).map Lexeme.token) := by
  simp [hfront, hclose, (isBalanced_flatten program).opens_eq_closes]

/-- Only a program is the outcome of a balanced sequence. -/
theorem Outcome.exists_program {lexemes : List (Lexeme ρ)}
    {outcome : Except (BracketError ρ) Program} (h : Outcome lexemes outcome)
    (hbalanced : IsBalanced (lexemes.map Lexeme.token)) :
    ∃ program, outcome = .ok program ∧ lexemes.map Lexeme.token = flatten program := by
  cases h with
  | complete hall => exact ⟨_, rfl, hall⟩
  | @superfluous before after close program hsplit hfront hclose =>
      have hlt := opens_lt_closes_concat hfront hclose
      have hle := hbalanced.noSuperfluous ((before ++ [close]).map Lexeme.token) (by simp [hsplit])
      exact absurd hle (Nat.not_le.2 hlt)
  | @unclosed before after opener program hsplit hfront hopener hafter =>
      have hwhole : IsBalanced
          (before.map Lexeme.token ++ .openBracket :: after.map Lexeme.token) := by
        simpa [hsplit, hopener] using hbalanced
      exact absurd hafter hwhole.hasPartner.not_noSuperfluous

/-- Building and flattening are inverse to each other between the balanced sequences of
lexemes and the programs. Of the lexemes only the tokens matter, not their places. -/
theorem parse_eq_ok_iff_flatten (lexemes : List (Lexeme ρ)) :
    (∀ program, parse lexemes = .ok program ↔ lexemes.map Lexeme.token = flatten program) ∧
      (IsBalanced (lexemes.map Lexeme.token) ↔ ∃ program, parse lexemes = .ok program) := by
  refine ⟨fun program => ⟨flatten_of_parse, parse_of_flatten⟩, ?_, ?_⟩
  · intro hbalanced
    obtain ⟨program, hparse, -⟩ := (parse_outcome lexemes).exists_program hbalanced
    exact ⟨program, hparse⟩
  · rintro ⟨program, hparse⟩
    rw [flatten_of_parse hparse]
    exact isBalanced_flatten program

end SexpReader
