/-
# Splitting lists

Where a list can be split in one way only. Two places in a list are the same or one comes
first. A code gives each letter a word, and in a prefix code the word in front of a list is
known from the list, whatever follows the word. Three ways lead to such a code: to read its
words, to put behind each word a stop that no word holds, and to write the words of another
prefix code one after another up to a stop that begins none of them.
-/

import Mathlib.Logic.Function.Defs

namespace SexpReader

variable {α β : Type}

/-- Two places in a sequence are the same, or one of them comes first. -/
theorem append_cons_inj_or {before before' after after' : List α} {a a' : α}
    (h : before ++ a :: after = before' ++ a' :: after') :
    (before = before' ∧ a = a' ∧ after = after') ∨
      (∃ between, before' = before ++ a :: between ∧ after = between ++ a' :: after') ∨
        ∃ between, before = before' ++ a' :: between ∧ after' = between ++ a :: after := by
  rcases List.append_eq_append_iff.1 h with ⟨middle, hbefore, hafter⟩ | ⟨middle, hbefore, hafter⟩
  · cases middle with
    | nil =>
        obtain ⟨rfl, rfl⟩ := List.cons.inj hafter
        exact Or.inl ⟨by simpa using hbefore.symm, rfl, rfl⟩
    | cons first between =>
        obtain ⟨rfl, rfl⟩ := List.cons.inj hafter
        exact Or.inr (Or.inl ⟨between, hbefore, rfl⟩)
  · cases middle with
    | nil =>
        obtain ⟨rfl, rfl⟩ := List.cons.inj hafter
        exact Or.inl ⟨by simpa using hbefore, rfl, rfl⟩
    | cons first between =>
        obtain ⟨rfl, rfl⟩ := List.cons.inj hafter
        exact Or.inr (Or.inr ⟨between, hbefore, rfl⟩)

/-- Whether the word in front of a list is known from the list, and with it what follows. -/
def IsPrefixCode (code : α → List β) : Prop :=
  ∀ ⦃first second : α⦄ ⦃rest more : List β⦄,
    code first ++ rest = code second ++ more → first = second ∧ rest = more

namespace IsPrefixCode

variable {code : α → List β} {stop : β}

theorem injective (h : IsPrefixCode code) : Function.Injective code := by
  intro first second hsame
  have hwords : code first ++ [] = code second ++ [] := by rw [hsame]
  exact (h hwords).1

/-- A word that can be read off leaves no choice. -/
theorem of_read {read : List β → Option (α × List β)}
    (hread : ∀ letter rest, read (code letter ++ rest) = some (letter, rest)) :
    IsPrefixCode code := by
  intro first second rest more hsame
  have hboth := congrArg read hsame
  rw [hread, hread] at hboth
  exact Prod.mk.inj (Option.some.inj hboth)

/-- Different words can be told apart by their ends, if behind each is a stop that none of them
holds. -/
theorem concat_of_not_mem (hinjective : Function.Injective code)
    (hstop : ∀ letter, stop ∉ code letter) : IsPrefixCode fun letter => code letter ++ [stop] := by
  intro first second rest more hsame
  simp only [List.append_assoc, List.singleton_append] at hsame
  rcases append_cons_inj_or hsame with ⟨hwords, -, hrest⟩ | ⟨between, hlonger, -⟩ |
    ⟨between, hlonger, -⟩
  · exact ⟨hinjective hwords, hrest⟩
  · exact absurd (by simp [hlonger]) (hstop second)
  · exact absurd (by simp [hlonger]) (hstop first)

/-- Words one after another can be read up to a stop, if no word is empty or begins with it. -/
theorem flatMap_concat (h : IsPrefixCode code) (hne : ∀ letter, code letter ≠ [])
    (hstop : ∀ letter rest, code letter ≠ stop :: rest) :
    IsPrefixCode fun letters => List.flatMap code letters ++ [stop] := by
  have hopen (letter : α) (letters : List α) (rest more : List β) :
      (letter :: letters).flatMap code ++ [stop] ++ rest ≠ [].flatMap code ++ [stop] ++ more := by
    obtain ⟨a, word, hword⟩ := List.exists_cons_of_ne_nil (hne letter)
    rw [List.flatMap_cons, hword]
    intro hsame
    obtain ⟨rfl, -⟩ := List.cons.inj hsame
    exact hstop letter word hword
  intro first second rest more hsame
  induction first generalizing second with
  | nil =>
      cases second with
      | nil => exact ⟨rfl, (List.cons.inj hsame).2⟩
      | cons letter second => exact absurd hsame.symm (hopen letter second more rest)
  | cons letter first ih =>
      cases second with
      | nil => exact absurd hsame (hopen letter first rest more)
      | cons other second =>
          simp only [List.flatMap_cons, List.append_assoc] at hsame ih
          obtain ⟨rfl, htail⟩ := h hsame
          obtain ⟨rfl, hrest⟩ := ih htail
          exact ⟨rfl, hrest⟩

/-- Words one after another give back their letters, if no word is empty. -/
theorem flatMap_injective (h : IsPrefixCode code) (hne : ∀ letter, code letter ≠ []) :
    Function.Injective (List.flatMap code) := by
  intro first second hsame
  induction first generalizing second with
  | nil =>
      cases second with
      | nil => rfl
      | cons letter second =>
          exact absurd (List.append_eq_nil_iff.1 hsame.symm).1 (hne letter)
  | cons letter first ih =>
      cases second with
      | nil => exact absurd (List.append_eq_nil_iff.1 hsame).1 (hne letter)
      | cons other second =>
          obtain ⟨rfl, htail⟩ := h hsame
          rw [ih htail]

end IsPrefixCode

end SexpReader
