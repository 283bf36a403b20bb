/-
# Canonical texts

The texts that reading and printing give back unchanged are those of the canonical grammar.
The renderings of programs whose symbols can be spelled are exactly the texts of that
grammar, by recursion on the tree in one direction and on the derivation in the other, and
such a rendering reads back as its program.
-/

import SexpReader.Node.Canonical
import SexpReader.Proofs.Node.RoundTrip

namespace SexpReader

/-- A text reads as a program exactly when it is a layout of the program's tokens. -/
theorem read_eq_ok_iff_isLayout {source : String} {program : Program} :
    read source = .ok program ↔
      ∃ lexemes, IsLayout lexemes source.toList ∧ lexemes.map Lexeme.token = flatten program := by
  rw [read_eq_ok_iff]
  constructor
  · rintro ⟨lexemes, htokenize, hparse⟩
    exact ⟨lexemes, isLayout_of_tokenize htokenize, flatten_of_parse hparse⟩
  · rintro ⟨lexemes, hlayout, hflatten⟩
    exact ⟨lexemes, tokenize_of_isLayout hlayout, parse_of_flatten hflatten⟩

/-- Every symbol among the tokens has a text that can stand for a symbol. -/
def HasSymbolTexts (tokens : List Token) : Prop :=
  ∀ text, .symbol text ∈ tokens → IsSymbolText text

namespace HasSymbolTexts

theorem append_iff {first second : List Token} :
    HasSymbolTexts (first ++ second) ↔ HasSymbolTexts first ∧ HasSymbolTexts second := by
  simp only [HasSymbolTexts, List.mem_append, or_imp, forall_and]

/-- Only symbols of that kind can be read. -/
theorem of_read {source : String} {program : Program} (h : read source = .ok program) :
    HasSymbolTexts (flatten program) := by
  intro text hmem
  obtain ⟨lexemes, ⟨body, tail, -, hlaid, -⟩, hflatten⟩ := read_eq_ok_iff_isLayout.1 h
  rw [← hflatten] at hmem
  obtain ⟨lexeme, hlexeme, htoken⟩ := List.mem_map.1 hmem
  obtain ⟨spelling, hspelling⟩ := hlaid.exists_spelling lexeme hlexeme
  rw [htoken] at hspelling
  exact hspelling.isSymbolText

theorem expression_iff {children : Program} :
    HasSymbolTexts (Node.expression children).flatten ↔ HasSymbolTexts (flatten children) := by
  simp [HasSymbolTexts, Node.flatten]

end HasSymbolTexts

/-- The canonical text of a program reads back, if all symbols can be spelled. -/
theorem read_toSource {program : Program} (h : HasSymbolTexts (flatten program)) :
    read (toSource program) = .ok program := by
  obtain ⟨lexemes, htokens, hlaid⟩ := exists_layout_renderAll program h 0
  refine read_eq_ok_iff_isLayout.2 ⟨lexemes, ?_, htokens⟩
  rw [toList_toSource]
  exact hlaid.isLayout

namespace Canonical

/-! ## Strings -/

theorem body_flatMap_escapeChar (text : List Char) : Body (text.flatMap Text.escapeChar) := by
  induction text with
  | nil => exact Body.nil
  | cons c text ih =>
      rw [List.flatMap_cons, Text.escapeChar]
      by_cases hquote : c = '"'
      · subst hquote
        exact Body.quote ih
      · by_cases hslash : c = '\\'
        · subst hslash
          exact Body.backslash ih
        · rw [if_neg (not_or.2 ⟨hquote, hslash⟩)]
          exact Body.plain hquote hslash ih

/-- What has no needless backslash is some text with the needed ones. -/
theorem Body.exists_text {body : List Char} (h : Body body) :
    ∃ text : List Char, text.flatMap Text.escapeChar = body := by
  induction h with
  | nil => exact ⟨[], rfl⟩
  | @plain c _ hquote hslash _ ih =>
      obtain ⟨text, rfl⟩ := ih
      refine ⟨c :: text, ?_⟩
      rw [List.flatMap_cons, Text.escapeChar, if_neg (not_or.2 ⟨hquote, hslash⟩)]
      rfl
  | quote _ ih =>
      obtain ⟨text, rfl⟩ := ih
      exact ⟨'"' :: text, rfl⟩
  | backslash _ ih =>
      obtain ⟨text, rfl⟩ := ih
      exact ⟨'\\' :: text, rfl⟩

/-! ## From trees to texts -/

theorem programText_of_nodesText {program : Program}
    (h : program ≠ [] → NodesText (renderAll program)) : ProgramText (renderAll program) := by
  by_cases hne : program = []
  · subst hne
    exact ProgramText.empty
  · exact ProgramText.nodes (h hne)

mutual

theorem nodeText_render (node : Node) (h : HasSymbolTexts node.flatten) :
    NodeText node.render := by
  match node with
  | .symbol text =>
      obtain ⟨hne, hall⟩ := h text (by simp [Node.flatten])
      rw [Node.render]
      exact NodeText.symbol (by simpa using hne) hall
  | .string text =>
      rw [Node.render]
      exact NodeText.string (body_flatMap_escapeChar text.toList)
  | .expression children =>
      rw [HasSymbolTexts.expression_iff] at h
      rw [Node.render]
      apply NodeText.expression
      apply programText_of_nodesText
      intro hne
      exact nodesText_renderAll children hne h

theorem nodesText_renderAll (program : Program) (hne : program ≠ [])
    (h : HasSymbolTexts (flatten program)) : NodesText (renderAll program) := by
  match program with
  | [] => exact absurd rfl hne
  | [node] =>
      rw [flatten, HasSymbolTexts.append_iff] at h
      exact NodesText.one (nodeText_render node h.1)
  | node :: next :: nodes =>
      rw [flatten, HasSymbolTexts.append_iff] at h
      have hnode := nodeText_render node h.1
      have hrest := nodesText_renderAll (next :: nodes) (List.cons_ne_nil next nodes) h.2
      exact NodesText.more hnode hrest

end

/-- A program whose symbols can be spelled is rendered as a text of the grammar. -/
theorem programText_renderAll {program : Program} (h : HasSymbolTexts (flatten program)) :
    ProgramText (renderAll program) := by
  apply programText_of_nodesText
  intro hne
  exact nodesText_renderAll program hne h

/-! ## From texts to trees -/

theorem exists_symbol {text : List Char} (hne : text ≠ [])
    (hall : ∀ c ∈ text, isSymbolChar c = true) :
    ∃ node : Node, node.render = text ∧ HasSymbolTexts node.flatten := by
  refine ⟨.symbol (String.ofList text), ?_, ?_⟩
  · rw [Node.render, String.toList_ofList]
  · intro symbol hmem
    obtain rfl : symbol = String.ofList text := by simpa [Node.flatten] using hmem
    exact ⟨by simpa using hne, by simpa using hall⟩

theorem exists_string {body : List Char} (h : Body body) :
    ∃ node : Node, node.render = '"' :: body ++ ['"'] ∧ HasSymbolTexts node.flatten := by
  obtain ⟨text, rfl⟩ := h.exists_text
  refine ⟨.string (String.ofList text), ?_, ?_⟩
  · rw [Node.render, String.toList_ofList]
  · simp [HasSymbolTexts, Node.flatten]

mutual

theorem NodeText.exists_node {text : List Char} (h : NodeText text) :
    ∃ node : Node, node.render = text ∧ HasSymbolTexts node.flatten := by
  match h with
  | .symbol hne hall => exact exists_symbol hne hall
  | .string hbody => exact exists_string hbody
  | .expression hchildren =>
      obtain ⟨children, rfl, hsymbols⟩ := hchildren.exists_program
      refine ⟨.expression children, ?_, HasSymbolTexts.expression_iff.2 hsymbols⟩
      rw [Node.render]

theorem NodesText.exists_program {text : List Char} (h : NodesText text) :
    ∃ node nodes, renderAll (node :: nodes) = text ∧
      HasSymbolTexts (flatten (node :: nodes)) := by
  match h with
  | .one hnode =>
      obtain ⟨node, rfl, hsymbols⟩ := hnode.exists_node
      refine ⟨node, [], rfl, ?_⟩
      simpa [flatten] using hsymbols
  | .more hnode hrest =>
      obtain ⟨node, rfl, hsymbols⟩ := hnode.exists_node
      obtain ⟨next, nodes, rfl, hmore⟩ := hrest.exists_program
      refine ⟨node, next :: nodes, rfl, ?_⟩
      rw [flatten, HasSymbolTexts.append_iff]
      exact ⟨hsymbols, hmore⟩

/-- Every text of the grammar is the rendering of a program whose symbols can be spelled.
-/
theorem ProgramText.exists_program {text : List Char} (h : ProgramText text) :
    ∃ program, renderAll program = text ∧ HasSymbolTexts (flatten program) := by
  match h with
  | .empty => exact ⟨[], rfl, by simp [HasSymbolTexts, flatten]⟩
  | .nodes hnodes =>
      obtain ⟨node, nodes, hrender, hsymbols⟩ := hnodes.exists_program
      exact ⟨node :: nodes, hrender, hsymbols⟩

end

end Canonical

/-- A text comes back unchanged from reading and printing exactly when the canonical
grammar derives it. What is printed for any text that can be read lies in that grammar and
reads as the same program again. -/
theorem read_toSource_unchanged_iff (source : String) :
    ((∃ program, read source = .ok program ∧ toSource program = source) ↔
        Canonical.ProgramText source.toList) ∧
      ∀ program, read source = .ok program →
        Canonical.ProgramText (toSource program).toList ∧
          read (toSource program) = .ok program := by
  have hprinted {program : Program} (hread : read source = .ok program) :
      Canonical.ProgramText (toSource program).toList := by
    rw [toList_toSource]
    exact Canonical.programText_renderAll (HasSymbolTexts.of_read hread)
  refine ⟨⟨?_, ?_⟩, ?_⟩
  · rintro ⟨program, hread, hsame⟩
    rw [← hsame]
    exact hprinted hread
  · intro hgrammar
    obtain ⟨program, hrender, hsymbols⟩ := hgrammar.exists_program
    have hsame : toSource program = source := by
      apply String.toList_injective
      rw [toList_toSource, hrender]
    refine ⟨program, ?_, hsame⟩
    rw [← hsame]
    exact read_toSource hsymbols
  · intro program hread
    exact ⟨hprinted hread, read_toSource (HasSymbolTexts.of_read hread)⟩

/-- Superfluous blanks, a comment and a needless backslash are gone from the printed text,
which then stays as it is. -/
theorem read_toSource_unchanged_of_comment :
    read " (a;x\n\"\\b\\\"\" )" = .ok [.expression [.symbol "a", .string "b\""]] ∧
      Canonical.ProgramText (toSource [.expression [.symbol "a", .string "b\""]]).toList ∧
      read (toSource [.expression [.symbol "a", .string "b\""]]) =
        .ok [.expression [.symbol "a", .string "b\""]] := by
  have hread : read " (a;x\n\"\\b\\\"\" )" =
      .ok [.expression [.symbol "a", .string "b\""]] := by cbv
  exact ⟨hread, (read_toSource_unchanged_iff _).2 _ hread⟩

end SexpReader
