/-
# Where the characters of a printed text come from

Printing what was read brings in no characters but the space between neighbours, the
brackets, the quotes and the backslashes in front of quotes and backslashes. All others
stand in the text of some token, and these come from the text that was read.
-/

import SexpReader.Proofs.Node.RoundTrip

namespace SexpReader

/-- The characters of the text of a token. Brackets have none. -/
def Token.chars : Token → List Char
  | openBracket | closeBracket => []
  | symbol text | string text => text.toList

theorem Unescapes.subset {body text : List Char} (h : Unescapes body text) : text ⊆ body := by
  induction h with
  | nil => exact List.Subset.refl []
  | plain _ _ _ ih => exact List.cons_subset_cons _ ih
  | escaped _ ih => exact List.subset_cons_of_subset _ (List.cons_subset_cons _ ih)

theorem Spelling.chars_subset {token : Token} {spelling : List Char}
    (h : Spelling token spelling) : token.chars ⊆ spelling := by
  cases h with
  | openBracket | closeBracket => exact List.nil_subset _
  | symbol _ _ => exact List.Subset.refl _
  | string hbody =>
      exact List.subset_cons_of_subset _ (List.subset_append_of_subset_left _ hbody.subset)

theorem Layout.chars_subset {afterSymbol : Bool} {offset : Nat} {lexemes : List (Lexeme Nat)}
    {text : List Char} (h : Layout afterSymbol offset lexemes text) :
    ∀ lexeme ∈ lexemes, lexeme.token.chars ⊆ text := by
  induction h with
  | nil _ => simp
  | cons _ hspelling _ _ ih =>
      intro lexeme hmem
      rcases List.mem_cons.1 hmem with rfl | hlater
      · exact List.subset_append_of_subset_left _
          (List.subset_append_of_subset_right _ hspelling.chars_subset)
      · exact List.subset_append_of_subset_right _ (ih lexeme hlater)

/-- The texts of the tokens of a program that was read stand in the source. -/
theorem chars_subset_of_read {source : String} {program : Program}
    (h : read source = .ok program) :
    ∀ token ∈ flatten program, token.chars ⊆ source.toList := by
  obtain ⟨lexemes, htokenize, hparse⟩ := read_eq_ok_iff.1 h
  obtain ⟨body, tail, hsource, hlaid, -⟩ := isLayout_of_tokenize htokenize
  rw [← flatten_of_parse hparse, hsource]
  rintro token hmem
  obtain ⟨lexeme, hlexeme, rfl⟩ := List.mem_map.1 hmem
  exact List.subset_append_of_subset_left _ (hlaid.chars_subset lexeme hlexeme)

/-- The characters that printing adds to the texts of the tokens. -/
def punctuation : List Char := [' ', '(', ')', '"', '\\']

theorem mem_flatMap_escapeChar {c : Char} {chars : List Char}
    (h : c ∈ chars.flatMap Text.escapeChar) : c ∈ punctuation ∨ c ∈ chars := by
  obtain ⟨d, hd, hc⟩ := List.mem_flatMap.1 h
  have hcases : c = '\\' ∨ c = d := by
    rw [Text.escapeChar] at hc
    split at hc
    · simpa using hc
    · exact Or.inr (List.mem_singleton.1 hc)
  rcases hcases with rfl | rfl
  · exact Or.inl (by decide)
  · exact Or.inr hd

mutual

theorem Node.mem_render {c : Char} (node : Node) (h : c ∈ node.render) :
    c ∈ punctuation ∨ c ∈ node.flatten.flatMap Token.chars := by
  match node with
  | .symbol text =>
      rw [Node.render] at h
      exact Or.inr (by simpa [Node.flatten, Token.chars] using h)
  | .string text =>
      simp only [Node.render, List.mem_append, List.mem_cons, List.not_mem_nil, or_false] at h
      rcases h with (rfl | hinside) | rfl
      · exact Or.inl (by decide)
      · simpa [Node.flatten, Token.chars] using mem_flatMap_escapeChar hinside
      · exact Or.inl (by decide)
  | .expression children =>
      simp only [Node.render, List.mem_append, List.mem_cons, List.not_mem_nil, or_false] at h
      rcases h with (rfl | hinside) | rfl
      · exact Or.inl (by decide)
      · simpa [Node.flatten, Token.chars] using mem_renderAll children hinside
      · exact Or.inl (by decide)

/-- Every character of a rendering is punctuation or stands in the text of a token. -/
theorem mem_renderAll {c : Char} (program : Program) (h : c ∈ renderAll program) :
    c ∈ punctuation ∨ c ∈ (flatten program).flatMap Token.chars := by
  match program with
  | [] => simp [renderAll] at h
  | [node] =>
      rw [renderAll] at h
      simpa [flatten] using node.mem_render h
  | node :: next :: nodes =>
      rw [flatten, List.flatMap_append]
      simp only [renderAll, List.mem_append, List.mem_cons] at h
      rcases h with hfirst | rfl | hrest
      · exact (node.mem_render hfirst).imp_right (List.mem_append_left _)
      · exact Or.inl (by decide)
      · exact (mem_renderAll (next :: nodes) hrest).imp_right (List.mem_append_right _)

end

/-- The canonical text of a program that was read has no characters but punctuation and
those of its source. -/
theorem mem_toSource_of_read {source : String} {program : Program} {c : Char}
    (hread : read source = .ok program) (h : c ∈ (toSource program).toList) :
    c ∈ punctuation ∨ c ∈ source.toList := by
  rw [toList_toSource] at h
  refine (mem_renderAll program h).imp_right ?_
  intro hchars
  obtain ⟨token, htoken, hc⟩ := List.mem_flatMap.1 hchars
  exact chars_subset_of_read hread token htoken hc

end SexpReader
