/-
# More lexemes behind lexemes

What becomes of a sequence of lexemes when more lexemes follow. A program stays in front, and
a superfluous bracket stays at fault. While more is open than what follows closes, the first
bracket that is left open stays at fault; as many close brackets as are missing complete the
program, and the next one is superfluous.
-/

import SexpReader.Proofs.Node.Concatenation

namespace SexpReader

variable {ρ : Type}

/-- A sequence closes no more brackets than it has lexemes. -/
theorem closesAtMost_length (lexemes : List (Lexeme ρ)) :
    ClosesAtMost lexemes.length (lexemes.map Lexeme.token) :=
  ClosesAtMost.of_length_le (Nat.le_of_eq (List.length_map _))

namespace Outcome

variable {lexemes : List (Lexeme ρ)} {position : ρ}

theorem append_of_superfluous (h : Outcome lexemes (.error (.superfluous position)))
    (more : List (Lexeme ρ)) : Outcome (lexemes ++ more) (.error (.superfluous position)) := by
  cases h with
  | @superfluous before after close program hsplit hfront hclose =>
      have hwhole : lexemes ++ more = before ++ close :: (after ++ more) := by
        rw [hsplit, List.append_assoc, List.cons_append]
      exact Outcome.superfluous hwhole hfront hclose

/-- With an open bracket at fault no bracket is superfluous, and more is opened than closed. -/
theorem counts_of_unclosed (h : Outcome lexemes (.error (.unclosed position))) :
    NoSuperfluous (lexemes.map Lexeme.token) ∧
      closes (lexemes.map Lexeme.token) < opens (lexemes.map Lexeme.token) := by
  cases h.verdict with
  | unclosed hnone hlt _ _ _ _ => exact ⟨hnone, hlt⟩

/-- What leaves at least one bracket open leaves open the one at fault. -/
theorem append_of_unclosed (h : Outcome lexemes (.error (.unclosed position)))
    {more : List (Lexeme ρ)} {depth : Nat} (hmore : ClosesAtMost depth (more.map Lexeme.token))
    (hopen : closes (lexemes.map Lexeme.token) + depth < opens (lexemes.map Lexeme.token)) :
    Outcome (lexemes ++ more) (.error (.unclosed position)) := by
  cases h with
  | @unclosed before after opener program hsplit hfront hopener hafter =>
      have hwhole : lexemes ++ more = before ++ opener :: (after ++ more) := by
        rw [hsplit, List.append_assoc, List.cons_append]
      -- One of the open brackets is the one at fault, and the others are behind it.
      have hbehind : closes (after.map Lexeme.token) + depth ≤ opens (after.map Lexeme.token) := by
        have hbalanced := (isBalanced_flatten program).opens_eq_closes
        simp only [hsplit, List.map_append, List.map_cons, hfront, hopener, closes_append,
          closes_cons, opens_append, opens_cons, reduceCtorEq, if_true, if_false] at hopen
        omega
      refine Outcome.unclosed hwhole hfront hopener ?_
      rw [List.map_append]
      exact hafter.append_of_closesAtMost hmore hbehind

/-- Close brackets for all that is open complete a program. -/
theorem exists_program_append (h : Outcome lexemes (.error (.unclosed position)))
    {closers : List (Lexeme ρ)} (hclosers : ∀ close ∈ closers, close.token = .closeBracket)
    (hcount : opens (lexemes.map Lexeme.token) =
      closes (lexemes.map Lexeme.token) + closers.length) :
    ∃ program : Program, (lexemes ++ closers).map Lexeme.token = flatten program := by
  have hall : ∀ token ∈ closers.map Lexeme.token, token = .closeBracket := by
    simpa using hclosers
  have hbalanced : IsBalanced ((lexemes ++ closers).map Lexeme.token) := by
    rw [List.map_append]
    refine ⟨?_, ?_⟩
    · exact h.counts_of_unclosed.1.append_of_closesAtMost (closesAtMost_length closers)
        (Nat.le_of_eq hcount.symm)
    · rw [opens_append, closes_append, opens_eq_zero hall, closes_eq_length hall,
        List.length_map]
      exact hcount
  obtain ⟨program, -, hprogram⟩ := (parse_outcome _).exists_program hbalanced
  exact ⟨program, hprogram⟩

/-- Of more close brackets than are missing the first one too many is at fault. -/
theorem append_of_missing_lt (h : Outcome lexemes (.error (.unclosed position)))
    {closers : List (Lexeme ρ)} (hclosers : ∀ close ∈ closers, close.token = .closeBracket)
    {missing : Nat}
    (hcount : opens (lexemes.map Lexeme.token) = closes (lexemes.map Lexeme.token) + missing)
    (hmore : missing < closers.length) :
    Outcome (lexemes ++ closers) (.error (.superfluous closers[missing].position)) := by
  have hwhole : lexemes ++ closers = (lexemes ++ closers.take missing) ++
      closers[missing] :: closers.drop (missing + 1) := by
    rw [List.append_assoc, ← List.drop_eq_getElem_cons hmore, List.take_append_drop]
  have hlength : (closers.take missing).length = missing := by
    rw [List.length_take, Nat.min_eq_left (Nat.le_of_lt hmore)]
  have hfront : ∀ close ∈ closers.take missing, close.token = .closeBracket :=
    fun close hclose => hclosers close (List.mem_of_mem_take hclose)
  obtain ⟨program, hprogram⟩ := h.exists_program_append hfront (by rw [hlength, hcount])
  exact Outcome.superfluous hwhole hprogram (hclosers _ (List.getElem_mem hmore))

end Outcome

/-- More lexemes behind a program are parsed as they are alone. Behind a superfluous bracket
they change nothing. Behind an unclosed bracket as many close brackets as are missing, and no
fewer, complete a program; one more is superfluous. -/
theorem parse_append_cases (first : List (Lexeme ρ)) :
    (∀ program, parse first = .ok program →
        ∀ second, parse (first ++ second) = (parse second).map (program ++ ·)) ∧
      (∀ position, parse first = .error (.superfluous position) →
        ∀ second, parse (first ++ second) = .error (.superfluous position)) ∧
      ∀ position, parse first = .error (.unclosed position) →
        ∃ missing, 1 ≤ missing ∧
          opens (first.map Lexeme.token) = closes (first.map Lexeme.token) + missing ∧
          ∀ closers : List (Lexeme ρ), (∀ close ∈ closers, close.token = .closeBracket) →
            (closers.length = missing → ∃ program, parse (first ++ closers) = .ok program) ∧
            (closers.length < missing →
              parse (first ++ closers) = .error (.unclosed position)) ∧
            ∀ hmore : missing < closers.length,
              parse (first ++ closers) = .error (.superfluous closers[missing].position) := by
  have houtcome := parse_outcome first
  refine ⟨fun program hprogram => parse_append hprogram, ?_, ?_⟩
  · intro position hposition second
    rw [hposition] at houtcome
    exact (parse_outcome _).unique (houtcome.append_of_superfluous second)
  · intro position hposition
    rw [hposition] at houtcome
    obtain ⟨-, hlt⟩ := houtcome.counts_of_unclosed
    obtain ⟨missing, hmissing⟩ := Nat.exists_eq_add_of_le (Nat.le_of_lt hlt)
    refine ⟨missing, by omega, hmissing, ?_⟩
    intro closers hclosers
    refine ⟨?_, ?_, ?_⟩
    · rintro rfl
      obtain ⟨program, hprogram⟩ := houtcome.exists_program_append hclosers hmissing
      exact ⟨program, parse_of_flatten hprogram⟩
    · intro hfewer
      apply (parse_outcome _).unique
      exact houtcome.append_of_unclosed (closesAtMost_length closers) (by omega)
    · intro hmore
      apply (parse_outcome _).unique
      exact houtcome.append_of_missing_lt hclosers hmissing hmore

/-- Two brackets are open, so one close bracket is too few and the third is superfluous. A
superfluous bracket behind a program stays at fault. -/
theorem parse_append_cases_of_two_open :
    parse [⟨.openBracket, 0⟩, ⟨.openBracket, 1⟩] = .error (.unclosed 0) ∧
      parse ([⟨.openBracket, 0⟩, ⟨.openBracket, 1⟩] ++ [⟨.closeBracket, 2⟩]) =
        .error (.unclosed 0) ∧
      (∃ program, parse ([⟨.openBracket, 0⟩, ⟨.openBracket, 1⟩] ++
        [⟨.closeBracket, 2⟩, ⟨.closeBracket, 3⟩]) = .ok program) ∧
      parse ([⟨.openBracket, 0⟩, ⟨.openBracket, 1⟩] ++
        [⟨.closeBracket, 2⟩, ⟨.closeBracket, 3⟩, ⟨.closeBracket, 4⟩]) =
          .error (.superfluous 4) ∧
      parse ([⟨.symbol "a", 0⟩] ++ [⟨.closeBracket, 1⟩]) = .error (.superfluous 1) ∧
      parse ([⟨.symbol "a", 0⟩, ⟨.closeBracket, 1⟩] ++ [⟨.openBracket, 2⟩]) =
        .error (.superfluous 1) := by
  have hopen : parse [⟨.openBracket, 0⟩, ⟨.openBracket, 1⟩] = .error (.unclosed 0) := rfl
  have hprogram : parse [⟨.symbol "a", 0⟩] = .ok [.symbol "a"] := rfl
  have hclose : parse [⟨.symbol "a", 0⟩, ⟨.closeBracket, 1⟩] = .error (.superfluous 1) := rfl
  obtain ⟨-, -, hunclosed⟩ := parse_append_cases [⟨.openBracket, 0⟩, ⟨.openBracket, 1⟩]
  obtain ⟨missing, -, hmissing, hclosers⟩ := hunclosed 0 hopen
  obtain rfl : 2 = missing := by simpa using hmissing
  refine ⟨hopen, ?_, ?_, ?_, ?_, ?_⟩
  · exact (hclosers _ (by simp)).2.1 (by decide)
  · exact (hclosers _ (by simp)).1 rfl
  · exact (hclosers _ (by simp)).2.2 (by decide)
  · exact (parse_append_cases _).1 _ hprogram [⟨.closeBracket, 1⟩]
  · exact (parse_append_cases _).2.1 1 hclose [⟨.openBracket, 2⟩]

end SexpReader
