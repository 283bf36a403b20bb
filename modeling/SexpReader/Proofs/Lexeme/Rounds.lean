/-
# Rounds of the scanner

The scanner at work, one look at a time. A round is one look at the character at hand, so a
character that ends a symbol takes two of them. The invariant says between any two rounds what
the token in progress holds of the text and where the lexemes stand that are complete. Every
round but the first of such two passes a character, which bounds the number of rounds.
-/

import Mathlib.Logic.Function.Iterate
import SexpReader.Proofs.Lexeme.Placement
import SexpReader.Proofs.Lexeme.Registers

namespace SexpReader

namespace Scanner

/-- One round over a text: a look at the character at hand, if one is left. -/
def round (source : List Char) (scanner : Scanner) : Scanner :=
  match source[scanner.position]? with
  | some c => scanner.step c
  | none => scanner

/-- The scanner after a number of rounds from the start of a text. -/
def afterRounds (source : List Char) (rounds : Nat) : Scanner :=
  (round source)^[rounds] initial

theorem afterRounds_succ (source : List Char) (rounds : Nat) :
    afterRounds source (rounds + 1) = (afterRounds source rounds).round source :=
  Function.iterate_succ_apply' _ _ _

end Scanner

namespace Registers

/-- One round over a text in registers. -/
def round (source : List Char) (registers : Registers) : Registers :=
  match source[registers.position]? with
  | some c => registers.look c
  | none => registers

/-- The registers after a number of rounds from the start of a text, where the buffer and the
start hold anything. -/
def afterRounds (source buffer : List Char) (start rounds : Nat) : Registers :=
  (round source)^[rounds] ⟨.base, buffer, start, 0, #[]⟩

/-- Forgetting what is left in the registers goes together with every round. -/
theorem semiconj_scanner_round (source : List Char) :
    Function.Semiconj scanner (round source) (Scanner.round source) := by
  intro registers
  have hposition : registers.scanner.position = registers.position := rfl
  rw [round, Scanner.round, hposition]
  cases source[registers.position]? with
  | none => rfl
  | some c => exact registers.scanner_look c

theorem scanner_afterRounds (source buffer : List Char) (start rounds : Nat) :
    (afterRounds source buffer start rounds).scanner = Scanner.afterRounds source rounds :=
  (semiconj_scanner_round source).iterate_right rounds _

end Registers

namespace Scanner

/-! ## One round -/

/-- A look feeds the character, except where it ends a symbol: then it completes the symbol and
does nothing else. -/
theorem step_cases (scanner : Scanner) (c : Char) :
    scanner.step c = scanner.feed c ∨
      (∃ start text, scanner.mode = .symbol start text) ∧ isSymbolChar c = false ∧
        scanner.step c = scanner.close := by
  obtain ⟨position, mode, lexemes⟩ := scanner
  cases mode with
  | base => exact Or.inl (feed_base c).symm
  | symbol start text =>
      cases hc : isSymbolChar c with
      | true => exact Or.inl (by simp [feed, step, hc, advance])
      | false => exact Or.inr ⟨⟨start, text, rfl⟩, rfl, by simp [step, hc]⟩
  | string start text =>
      rw [feed_string]
      exact Or.inl rfl
  | escape start text => exact Or.inl (feed_escape c).symm
  | comment => exact Or.inl (feed_comment c).symm

theorem round_eq_step {source consumed rest : List Char} {c : Char} {scanner : Scanner}
    (hsource : source = consumed ++ c :: rest) (hposition : scanner.position = consumed.length) :
    scanner.round source = scanner.step c := by
  simp [round, hsource, hposition]

theorem round_eq_self {source : List Char} {scanner : Scanner}
    (hposition : source.length ≤ scanner.position) : scanner.round source = scanner := by
  simp [round, List.getElem?_eq_none hposition]

/-- What may become of the position and the mode in a round: a character is passed, or a symbol
is left without passing the character behind it. -/
def Advances (before after : Scanner) : Prop :=
  after.position = before.position + 1 ∨
    after.position = before.position ∧ (∃ start text, before.mode = .symbol start text) ∧
      after.mode = .base

theorem advances_round {source : List Char} {scanner : Scanner}
    (h : scanner.position < source.length) : Advances scanner (scanner.round source) := by
  have hround : scanner.round source = scanner.step source[scanner.position] := by
    simp [round, List.getElem?_eq_getElem h]
  rw [hround]
  rcases scanner.step_cases source[scanner.position] with hfeed | ⟨⟨start, text, hmode⟩, -, hclose⟩
  · rw [hfeed]
    exact Or.inl (feed_position scanner _)
  · rw [hclose, close, hmode]
    exact Or.inr ⟨rfl, ⟨start, text, hmode⟩, rfl⟩

theorem le_position_round (source : List Char) (scanner : Scanner) :
    scanner.position ≤ (scanner.round source).position := by
  by_cases h : scanner.position < source.length
  · rcases advances_round h with hpassed | ⟨hleft, -, -⟩
    · exact hpassed ▸ Nat.le_succ _
    · exact Nat.le_of_eq hleft.symm
  · have hsame := round_eq_self (Nat.not_lt.1 h)
    exact Nat.le_of_eq (congrArg Scanner.position hsame.symm)

/-- A symbol is left at most once, so two rounds pass a character. -/
theorem lt_position_round_round {source : List Char} {scanner : Scanner}
    (h : scanner.position < source.length) :
    scanner.position < ((scanner.round source).round source).position := by
  rcases advances_round h with hpassed | ⟨hleft, -, hbase⟩
  · have hnext := le_position_round source (scanner.round source)
    omega
  · rcases advances_round (hleft ▸ h) with hpassed | ⟨-, ⟨start, text, hsymbol⟩, -⟩
    · omega
    · rw [hbase] at hsymbol
      cases hsymbol

/-! ## Between two rounds -/

theorem Follows.position_eq {consumed : List Char} {scanner : Scanner}
    (h : Follows consumed scanner) : scanner.position = consumed.length := by
  cases h <;> rfl

/-- How the text explains a scanner between two rounds. Either the scanner follows the text up
to its position, or it has just completed a symbol and the character at hand ended that. -/
inductive Stands (source : List Char) : Scanner → Prop
  | follows {consumed rest : List Char} {scanner : Scanner} :
      source = consumed ++ rest → Follows consumed scanner → Stands source scanner
  | leftSymbol {consumed rest : List Char} {c : Char} {lexemes : Array (Lexeme Nat)} :
      source = consumed ++ c :: rest → isSymbolChar c = false →
      Layout false 0 lexemes.toList consumed →
      Stands source ⟨consumed.length, .base, lexemes⟩

namespace Stands

theorem initial (source : List Char) : Stands source Scanner.initial :=
  Stands.follows (List.nil_append source).symm Follows.initial

/-- Every round keeps the scanner explained. -/
theorem round {source : List Char} {scanner : Scanner} (h : Stands source scanner) :
    Stands source (scanner.round source) := by
  cases h with
  | leftSymbol hsource hc hlaid =>
      have hfed := Follows.stepBase hlaid fun hsymbol => absurd (hc.symm.trans hsymbol) (by simp)
      rw [round_eq_step hsource rfl]
      exact Stands.follows (by simpa using hsource) hfed
  | @follows consumed rest _ hsource hfollows =>
      cases rest with
      | nil =>
          have hend : source.length ≤ scanner.position := by
            simp [hfollows.position_eq, hsource]
          rw [round_eq_self hend]
          exact Stands.follows hsource hfollows
      | cons c rest =>
          rw [round_eq_step hsource hfollows.position_eq]
          rcases scanner.step_cases c with hfeed | ⟨⟨start, text, hmode⟩, hc, hclose⟩
          · rw [hfeed]
            exact Stands.follows (by simpa using hsource) (hfollows.feed c)
          · rw [hclose]
            cases hfollows with
            | base _ _ | string _ _ | escape _ _ | comment _ _ => cases hmode
            | symbol hlaid hends hspelling =>
                have hwhole := hlaid.append_spelling hspelling fun _ => hends
                exact Stands.leftSymbol hsource hc (by simpa using hwhole)

/-- The scanner is explained after any number of rounds. -/
theorem afterRounds (source : List Char) (rounds : Nat) :
    Stands source (afterRounds source rounds) := by
  induction rounds with
  | zero => exact initial source
  | succ rounds ih =>
      rw [afterRounds_succ]
      exact ih.round

end Stands

/-! ## The invariant -/

/-- The offset of the token in progress. Outside all tokens it is the place where the next one
can start. -/
def pendingStart (scanner : Scanner) : Nat :=
  match scanner.mode with
  | .base | .comment => scanner.position
  | .symbol start _ | .string start _ | .escape start _ => start

/-- What a scanner at a position knows of the token in progress. A symbol is the text from its
start on, and does not go on with a symbol in front; a string has its quote at its start, and is
what the characters behind the quote stand for, up to a last backslash. -/
def KnowsPending (source : List Char) (position : Nat) : Mode → Prop
  | .base | .comment => True
  | .symbol start text =>
      start < position ∧ source.extract start position = text.toList ∧
        (∀ c ∈ text.toList, isSymbolChar c = true) ∧
        ∀ i c, i + 1 = start → source[i]? = some c → isSymbolChar c = false
  | .string start text =>
      start < position ∧ source[start]? = some '"' ∧
        Unescapes (source.extract (start + 1) position) text.toList
  | .escape start text =>
      start < position ∧ source[start]? = some '"' ∧
        ∃ body, source.extract (start + 1) position = body ++ ['\\'] ∧
          Unescapes body text.toList

/-- What holds between any two rounds. -/
structure RoundInvariant (source : List Char) (scanner : Scanner) : Prop where
  position_le : scanner.position ≤ source.length
  increasing : scanner.lexemes.toList.Pairwise fun first second =>
    first.position < second.position
  in_front_of_pending : ∀ lexeme ∈ scanner.lexemes.toList, lexeme.position < scanner.pendingStart
  pending : KnowsPending source scanner.position scanner.mode

/-- The characters behind a quote, up to a position. -/
theorem extract_behind_quote (before body rest : List Char) :
    (before ++ '"' :: body ++ rest).extract (before.length + 1)
      (before ++ '"' :: body).length = body := by
  have hmiddle := extract_append_append (before ++ ['"']) body rest
  simpa [Nat.add_assoc, Nat.add_comm 1] using hmiddle

/-- The lexemes of a layout in front of a place stand in order in front of it. -/
theorem RoundInvariant.of_layout {source before : List Char} {scanner : Scanner}
    (hlaid : Layout false 0 scanner.lexemes.toList before)
    (hplace : before.length ≤ scanner.pendingStart) (hposition : scanner.position ≤ source.length)
    (hpending : KnowsPending source scanner.position scanner.mode) :
    RoundInvariant source scanner where
  position_le := hposition
  increasing := hlaid.pairwise_position
  in_front_of_pending lexeme hmem := by
    have hbounds := hlaid.position_bounds lexeme hmem
    omega
  pending := hpending

theorem Stands.roundInvariant {source : List Char} {scanner : Scanner}
    (h : Stands source scanner) : RoundInvariant source scanner := by
  cases h with
  | leftSymbol hsource _ hlaid =>
      exact RoundInvariant.of_layout hlaid (Nat.le_refl _) (by simp [hsource]) trivial
  | @follows consumed rest _ hsource hfollows =>
      have hposition : scanner.position ≤ source.length := by
        simp [hfollows.position_eq, hsource]
      cases hfollows with
      | base hlaid _ => exact RoundInvariant.of_layout hlaid (Nat.le_refl _) hposition trivial
      | comment hlaid _ =>
          exact RoundInvariant.of_layout hlaid (by simp [pendingStart]) hposition trivial
      | @symbol lexemes before text hlaid hends hspelling =>
          refine RoundInvariant.of_layout hlaid (Nat.le_refl _) hposition ?_
          cases hspelling with
          | symbol hne hall =>
              have hpos := List.length_pos_iff.2 hne
              subst hsource
              refine ⟨by simpa using hpos, by simp, hall, ?_⟩
              intro i c hi hc
              rw [List.append_assoc] at hc
              exact isSymbolChar_getLast hends hi hc
      | @string lexemes before body text hlaid hbody =>
          refine RoundInvariant.of_layout hlaid (Nat.le_refl _) hposition ?_
          have hslice := extract_behind_quote before body rest
          subst hsource
          refine ⟨by simp, by simp, ?_⟩
          rwa [hslice]
      | @escape lexemes before body text hlaid hbody =>
          refine RoundInvariant.of_layout hlaid (Nat.le_refl _) hposition ?_
          have hslice := extract_behind_quote before (body ++ ['\\']) rest
          subst hsource
          refine ⟨by simp, by simp, body, by simpa using hslice, hbody⟩

/-! ## The end of the text -/

/-- A character takes one round or two. -/
theorem exists_rounds_feed {source consumed rest : List Char} {c : Char} {scanner : Scanner}
    (hsource : source = consumed ++ c :: rest) (hposition : scanner.position = consumed.length) :
    ∃ rounds ≤ 2, (round source)^[rounds] scanner = scanner.feed c := by
  have hround := round_eq_step hsource hposition
  rcases scanner.step_cases c with hfeed | ⟨⟨start, text, hmode⟩, hc, hclose⟩
  · exact ⟨1, by simp, by rw [Function.iterate_one, hround, hfeed]⟩
  · refine ⟨2, Nat.le_refl 2, ?_⟩
    have hagain : scanner.close.position = consumed.length := by
      rw [close, hmode]
      exact hposition
    have hbase : scanner.close.step c = scanner.close.feed c := by
      rw [close, hmode]
      exact (feed_base c).symm
    rw [Function.iterate_succ_apply', Function.iterate_one, hround, hclose,
      round_eq_step hsource hagain, hbase, feed_close scanner hc]

/-- The rest of a text takes at most two rounds for each of its characters. -/
theorem exists_rounds_feedAll {source consumed rest : List Char} {scanner : Scanner}
    (hsource : source = consumed ++ rest) (hposition : scanner.position = consumed.length) :
    ∃ rounds ≤ 2 * rest.length, (round source)^[rounds] scanner = scanner.feedAll rest := by
  induction rest generalizing consumed scanner with
  | nil => exact ⟨0, Nat.le_refl 0, rfl⟩
  | cons c rest ih =>
      obtain ⟨first, hfirst, hfed⟩ := exists_rounds_feed hsource hposition
      have hnext : (scanner.feed c).position = (consumed ++ [c]).length := by
        simp [feed_position, hposition]
      obtain ⟨more, hmore, hall⟩ := ih (by simpa using hsource) hnext
      refine ⟨more + first, ?_, ?_⟩
      · rw [List.length_cons]
        omega
      · rw [Function.iterate_add_apply, hfed, hall, feedAll_cons]

/-- A scanner at work on a text. Between any two rounds the invariant holds; a round passes a
character or leaves a symbol, so of two rounds at least one passes a character; after at most two
rounds for each character the text is read, and the scanner is the one that the lexemes of the
text are taken from. The same goes for registers, whatever they hold of earlier tokens. In
particular every symbol among the lexemes is maximal. -/
theorem afterRounds_roundInvariant (source : String) :
    (∀ rounds, RoundInvariant source.toList (afterRounds source.toList rounds)) ∧
      (∀ rounds, (afterRounds source.toList rounds).position < source.length →
        Advances (afterRounds source.toList rounds) (afterRounds source.toList (rounds + 1)) ∧
          (afterRounds source.toList rounds).position <
            (afterRounds source.toList (rounds + 2)).position) ∧
      (∃ rounds ≤ 2 * source.length,
        (afterRounds source.toList rounds).position = source.length ∧
          tokenize source = (afterRounds source.toList rounds).finish ∧
          ∀ buffer start, tokenize source =
            (Registers.afterRounds source.toList buffer start rounds).finish) ∧
      (∀ buffer start rounds,
        (Registers.afterRounds source.toList buffer start rounds).scanner =
          afterRounds source.toList rounds) ∧
      ∀ lexemes, tokenize source = .ok lexemes → ∀ text start,
        ⟨.symbol text, start⟩ ∈ lexemes → IsMaximalSymbol source.toList start text.toList := by
  refine ⟨fun rounds => (Stands.afterRounds source.toList rounds).roundInvariant, ?_, ?_,
    Registers.scanner_afterRounds source.toList, ?_⟩
  · intro rounds hleft
    rw [← String.length_toList] at hleft
    rw [afterRounds_succ, afterRounds_succ, afterRounds_succ]
    exact ⟨advances_round hleft, lt_position_round_round hleft⟩
  · obtain ⟨rounds, hbound, hread⟩ : ∃ rounds ≤ 2 * source.toList.length,
        afterRounds source.toList rounds = initial.feedAll source.toList :=
      exists_rounds_feedAll (List.nil_append source.toList).symm rfl
    rw [String.length_toList] at hbound
    have hfound : tokenize source = (afterRounds source.toList rounds).finish := by
      rw [hread, tokenize]
    refine ⟨rounds, hbound, ?_, hfound, fun buffer start => ?_⟩
    · rw [hread, (Follows.initial.feedAll source.toList).position_eq, List.nil_append,
        String.length_toList]
    · rw [hfound, ← Registers.finish_scanner, Registers.scanner_afterRounds]
  · intro lexemes h text start hmem
    exact (isLayout_of_tokenize h).isMaximalSymbol hmem

/-- A symbol right in front of a string and one right behind it. The quote takes two rounds. -/
theorem afterRounds_roundInvariant_of_adjacent :
    (afterRounds "ab\"c\\\"\"ef;x".toList 2).position < "ab\"c\\\"\"ef;x".length ∧
      Advances (afterRounds "ab\"c\\\"\"ef;x".toList 2) (afterRounds "ab\"c\\\"\"ef;x".toList 3) ∧
      (afterRounds "ab\"c\\\"\"ef;x".toList 2).position <
        (afterRounds "ab\"c\\\"\"ef;x".toList 4).position ∧
      tokenize "ab\"c\\\"\"ef;x" =
        .ok [⟨.symbol "ab", 0⟩, ⟨.string "c\"", 2⟩, ⟨.symbol "ef", 7⟩] ∧
      IsMaximalSymbol "ab\"c\\\"\"ef;x".toList 0 "ab".toList ∧
      IsMaximalSymbol "ab\"c\\\"\"ef;x".toList 7 "ef".toList := by
  have hleft : (afterRounds "ab\"c\\\"\"ef;x".toList 2).position < "ab\"c\\\"\"ef;x".length := by
    decide
  have hfound : tokenize "ab\"c\\\"\"ef;x" =
      .ok [⟨.symbol "ab", 0⟩, ⟨.string "c\"", 2⟩, ⟨.symbol "ef", 7⟩] := rfl
  obtain ⟨-, hmoves, -, -, hmaximal⟩ := afterRounds_roundInvariant "ab\"c\\\"\"ef;x"
  obtain ⟨hadvances, hpassed⟩ := hmoves 2 hleft
  exact ⟨hleft, hadvances, hpassed, hfound, hmaximal _ hfound "ab" 0 (by simp),
    hmaximal _ hfound "ef" 7 (by simp)⟩

end Scanner

end SexpReader
