/-
# The frames of the builder

What the stack holds in the middle of a run. Read from its bottom to its top, and the current
level behind that, it is the flattening of what has been taken: of each frame the nodes and then
the bracket behind them. The brackets in the frames are those that have no partner so far. A
builder of which this holds is the only one that a run over these lexemes can end in.
-/

import Mathlib.Data.List.Infix
import SexpReader.Proofs.Node.Building

namespace SexpReader

variable {ρ : Type}

/-! ## Brackets without a partner -/

instance (behind : List Token) : Decidable (HasPartner behind) :=
  decidable_of_iff (¬ ∀ front ∈ behind.inits, closes front ≤ opens front) <| by
    simp only [List.mem_inits]
    exact hasPartner_iff.symm

/-- What closes no more than it opens holds no partner for a bracket in front. -/
theorem hasPartner_append_iff {behind more : List Token} (h : NoSuperfluous more) :
    HasPartner (behind ++ more) ↔ HasPartner behind := by
  rw [hasPartner_iff, hasPartner_iff, not_iff_not]
  exact ⟨NoSuperfluous.of_append, fun hbehind => hbehind.append h⟩

/-- The open brackets that have no partner, in the order of the sequence. -/
def unmatched : List (Lexeme ρ) → List (Lexeme ρ)
  | [] => []
  | lexeme :: behind =>
      if lexeme.token = .openBracket ∧ ¬ HasPartner (behind.map Lexeme.token) then
        lexeme :: unmatched behind
      else unmatched behind

theorem unmatched_cons_of_noSuperfluous {opener : Lexeme ρ} {behind : List (Lexeme ρ)}
    (hopener : opener.token = .openBracket) (h : NoSuperfluous (behind.map Lexeme.token)) :
    unmatched (opener :: behind) = opener :: unmatched behind := by
  have hopen : ¬ HasPartner (behind.map Lexeme.token) := fun hpartner =>
    hpartner.not_noSuperfluous h
  rw [unmatched, if_pos ⟨hopener, hopen⟩]

/-- Brackets that stay open do so whatever follows, if this closes no more than it opens. -/
theorem unmatched_append {first second : List (Lexeme ρ)}
    (h : NoSuperfluous (second.map Lexeme.token)) :
    unmatched (first ++ second) = unmatched first ++ unmatched second := by
  induction first with
  | nil => rfl
  | cons lexeme behind ih =>
      have hsame : HasPartner ((behind ++ second).map Lexeme.token) ↔
          HasPartner (behind.map Lexeme.token) := by
        rw [List.map_append]
        exact hasPartner_append_iff h
      simp only [List.cons_append, unmatched, hsame, ih]
      split <;> rfl

/-- A program leaves no bracket open. -/
theorem unmatched_of_flatten {lexemes : List (Lexeme ρ)} {program : Program}
    (h : lexemes.map Lexeme.token = flatten program) : unmatched lexemes = [] := by
  have hpartner : ∀ front opener behind, lexemes = front ++ opener :: behind →
      opener.token = .openBracket → HasPartner (behind.map Lexeme.token) := by
    rintro front opener behind rfl hopener
    have hbalanced := isBalanced_flatten program
    rw [← h, List.map_append, List.map_cons, hopener] at hbalanced
    exact hbalanced.hasPartner
  clear h
  induction lexemes with
  | nil => rfl
  | cons lexeme behind ih =>
      rw [unmatched, if_neg]
      · exact ih fun front opener rest hsplit =>
          hpartner (lexeme :: front) opener rest (by simp [hsplit])
      · rintro ⟨hopener, hopen⟩
        exact hopen (hpartner [] lexeme behind rfl hopener)

/-! ## What the stack accounts for -/

/-- The bracket behind the nodes of a frame, which opened the next level. -/
def Frame.opener (frame : Frame ρ) : Lexeme ρ :=
  ⟨.openBracket, frame.openedAt⟩

/-- The tokens that a frame stands for: its nodes and the bracket behind them. -/
def Frame.flatten (frame : Frame ρ) : List Token :=
  SexpReader.flatten frame.siblings.toList ++ [.openBracket]

namespace Builder

/-- The tokens that a builder stands for, from the bottom of the stack to the current level. -/
def flatten (builder : Builder ρ) : List Token :=
  builder.frames.reverse.flatMap Frame.flatten ++ SexpReader.flatten builder.nodes.toList

/-- The brackets in the frames, from the bottom of the stack to its top. -/
def openers (builder : Builder ρ) : List (Lexeme ρ) :=
  builder.frames.reverse.map Frame.opener

/-- What holds between the lexemes taken so far and the builder: it stands for their tokens, a
frame is left for each bracket that is opened and not closed, and the brackets in the frames are
just those without a partner. -/
structure Accounts (consumed : List (Lexeme ρ)) (builder : Builder ρ) : Prop where
  flatten_eq : consumed.map Lexeme.token = builder.flatten
  length_frames : builder.frames.length + closes (consumed.map Lexeme.token) =
    opens (consumed.map Lexeme.token)
  openers_eq : builder.openers = unmatched consumed

theorem flatten_cons (frame : Frame ρ) (frames : List (Frame ρ)) (nodes : Array Node) :
    flatten ⟨frame :: frames, nodes⟩ =
      flatten ⟨frames, frame.siblings⟩ ++ .openBracket :: SexpReader.flatten nodes.toList := by
  simp [flatten, Frame.flatten]

theorem openers_cons (frame : Frame ρ) (frames : List (Frame ρ)) (siblings nodes : Array Node) :
    openers ⟨frame :: frames, nodes⟩ = openers ⟨frames, siblings⟩ ++ [frame.opener] := by
  simp [openers]

/-- What is behind the last open bracket of a builder is a program, so that bracket is the last
one without a partner. -/
theorem unmatched_append_cons {before inside : List (Lexeme ρ)} {opener : Lexeme ρ}
    {program : Program} (hopener : opener.token = .openBracket)
    (hinside : inside.map Lexeme.token = SexpReader.flatten program) :
    unmatched (before ++ opener :: inside) = unmatched before ++ [opener] := by
  have hnone : NoSuperfluous (inside.map Lexeme.token) := by
    rw [hinside]
    exact (isBalanced_flatten program).noSuperfluous
  have hbehind : NoSuperfluous ((opener :: inside).map Lexeme.token) := by
    rw [List.map_cons, hopener]
    exact hnone.cons (by simp)
  rw [unmatched_append hbehind, unmatched_cons_of_noSuperfluous hopener hnone,
    unmatched_of_flatten hinside]

theorem Builds.accounts {consumed : List (Lexeme ρ)} {builder : Builder ρ}
    (h : Builds consumed builder) : Accounts consumed builder := by
  induction h with
  | @outermost consumed nodes hconsumed =>
      refine ⟨hconsumed, ?_, (unmatched_of_flatten hconsumed).symm⟩
      rw [hconsumed, (isBalanced_flatten nodes.toList).opens_eq_closes]
      exact Nat.zero_add _
  | @inner before inside opener frames siblings nodes hbefore hopener hinside ih =>
      have htokens : (before ++ opener :: inside).map Lexeme.token =
          before.map Lexeme.token ++ .openBracket :: SexpReader.flatten nodes.toList := by
        rw [List.map_append, List.map_cons, hopener, hinside]
      refine ⟨?_, ?_, ?_⟩
      · rw [htokens, flatten_cons, ih.flatten_eq]
      · have hclosed := (isBalanced_flatten nodes.toList).opens_eq_closes
        have hlength := ih.length_frames
        simp only [htokens, closes_append, closes_cons, opens_append, opens_cons, reduceCtorEq,
          if_true, if_false, List.length_cons] at hlength ⊢
        omega
      · obtain ⟨token, position⟩ := opener
        obtain rfl : token = .openBracket := hopener
        rw [openers_cons _ _ siblings, ih.openers_eq, unmatched_append_cons rfl hinside]
        rfl

/-- A run over the lexemes that a builder accounts for ends in that builder. -/
theorem foldlM_push_of_accounts {consumed : List (Lexeme ρ)} {frames : List (Frame ρ)}
    {nodes : Array Node} (htokens : consumed.map Lexeme.token = flatten ⟨frames, nodes⟩)
    (hopeners : openers ⟨frames, nodes⟩ = unmatched consumed) :
    consumed.foldlM push empty = .ok ⟨frames, nodes⟩ := by
  induction frames generalizing consumed nodes with
  | nil =>
      rw [foldlM_push_of_flatten nodes.toList htokens]
      simp [empty]
  | cons frame outer ih =>
      -- The frame on top was made by the last open bracket; the rest of the stack by what is in
      -- front of that.
      rw [flatten_cons] at htokens
      obtain ⟨before, behind, rfl, hbefore, hbehind⟩ := List.map_eq_append_iff.1 htokens
      obtain ⟨opener, inside, rfl, hopener, hinside⟩ := List.map_eq_cons_iff.1 hbehind
      rw [openers_cons _ _ frame.siblings, unmatched_append_cons hopener hinside] at hopeners
      obtain ⟨houter, hlast⟩ := List.append_inj' hopeners rfl
      obtain rfl : frame.opener = opener := List.singleton_inj.1 hlast
      have hopened : push ⟨outer, frame.siblings⟩ frame.opener = .ok ⟨frame :: outer, #[]⟩ := rfl
      rw [List.foldlM_append, ih hbefore houter]
      show (frame.opener :: inside).foldlM push ⟨outer, frame.siblings⟩ = _
      rw [List.foldlM_cons, hopened]
      show inside.foldlM push ⟨frame :: outer, #[]⟩ = _
      rw [foldlM_push_of_flatten nodes.toList hinside]
      simp

/-- Lexemes are taken without an error, and leave a certain builder, exactly if that builder
accounts for them. Parsing a whole sequence goes on from there with the lexemes behind. -/
theorem foldlM_push_eq_ok_iff_accounts (consumed : List (Lexeme ρ)) (builder : Builder ρ) :
    (consumed.foldlM push empty = .ok builder ↔ Accounts consumed builder) ∧
      ∀ rest, parse (consumed ++ rest) =
        consumed.foldlM push empty >>= fun taken => rest.foldlM push taken >>= finish := by
  refine ⟨⟨?_, ?_⟩, ?_⟩
  · intro hrun
    rcases Builds.empty.foldlM_push consumed with ⟨last, hlast, hbuilds⟩ |
      ⟨_, _, _, _, _, _, _, hstop⟩
    · obtain rfl := Except.ok.inj (hlast.symm.trans hrun)
      exact Builds.accounts (by simpa using hbuilds)
    · rw [hrun] at hstop
      cases hstop
  · intro h
    exact foldlM_push_of_accounts h.flatten_eq h.openers_eq
  · intro rest
    rw [parse, List.foldlM_append, bind_assoc]

example : unmatched [⟨.openBracket, 0⟩, ⟨.openBracket, 2⟩, ⟨.closeBracket, 5⟩] =
    [(⟨.openBracket, 0⟩ : Lexeme Nat)] := by decide

end Builder

end SexpReader
