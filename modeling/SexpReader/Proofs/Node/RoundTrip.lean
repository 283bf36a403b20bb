/-
# Printing and reading back

The canonical text of a program reads back as that program exactly when all its symbols are
texts that could stand for a symbol. The rendering of such a program is a layout of its
flattening; conversely nothing else can be read, since every symbol that is read has a
spelling. Strings need no condition, as quoting takes care of them.
-/

import SexpReader.Read
import SexpReader.Proofs.Lexeme.Tokenizing
import SexpReader.Proofs.Node.Building
import SexpReader.Proofs.Node.Printing

namespace SexpReader

/-- A node is part of a program, at the top level or inside an expression. -/
inductive Occurs (node : Node) : Program → Prop
  | here {program : Program} : node ∈ program → Occurs node program
  | inside {children : List Node} {program : Program} :
      .expression children ∈ program → Occurs node children → Occurs node program

theorem flatten_eq_flatMap (program : Program) :
    flatten program = program.flatMap Node.flatten := by
  induction program with
  | nil => rw [flatten, List.flatMap_nil]
  | cons node nodes ih => rw [flatten, ih, List.flatMap_cons]

theorem Occurs.mono {node : Node} {program larger : Program} (h : Occurs node program)
    (hsubset : program ⊆ larger) : Occurs node larger := by
  cases h with
  | here hmem => exact Occurs.here (hsubset hmem)
  | inside hmem hinside => exact Occurs.inside (hsubset hmem) hinside

/-- The symbols among the tokens of a program are the symbols that occur in it. -/
theorem Occurs.mem_flatten {text : String} {program : Program}
    (h : Occurs (.symbol text) program) : .symbol text ∈ flatten program := by
  induction h with
  | here hmem =>
      rw [flatten_eq_flatMap]
      exact List.mem_flatMap.2 ⟨_, hmem, by simp [Node.flatten]⟩
  | inside hmem _ ih =>
      rw [flatten_eq_flatMap]
      exact List.mem_flatMap.2 ⟨_, hmem, by simp [Node.flatten, ih]⟩

mutual

theorem Node.occurs_of_mem_flatten {text : String} (node : Node)
    (h : .symbol text ∈ node.flatten) : Occurs (.symbol text) [node] := by
  match node with
  | .symbol first =>
      obtain rfl : text = first := by simpa [Node.flatten] using h
      exact Occurs.here List.mem_cons_self
  | .string first => simp [Node.flatten] at h
  | .expression children =>
      have hinside : .symbol text ∈ flatten children := by simpa [Node.flatten] using h
      exact Occurs.inside List.mem_cons_self (occurs_of_mem_flatten children hinside)

theorem occurs_of_mem_flatten {text : String} (program : Program)
    (h : .symbol text ∈ flatten program) : Occurs (.symbol text) program := by
  match program with
  | [] => simp [flatten] at h
  | node :: nodes =>
      rw [flatten, List.mem_append] at h
      rcases h with hnode | hlater
      · exact (node.occurs_of_mem_flatten hnode).mono (by simp)
      · exact (occurs_of_mem_flatten nodes hlater).mono (List.subset_cons_self node nodes)

end

/-- Whether a text can stand for a symbol. -/
def IsSymbolText (text : String) : Prop :=
  text ≠ "" ∧ ∀ c ∈ text.toList, isSymbolChar c = true

theorem IsSymbolText.spelling {text : String} (h : IsSymbolText text) :
    Spelling (.symbol text) text.toList := by
  refine Spelling.symbol ?_ h.2
  intro hempty
  exact h.1 (String.toList_injective hempty)

theorem Spelling.isSymbolText {text : String} {spelling : List Char}
    (h : Spelling (.symbol text) spelling) : IsSymbolText text := by
  cases h with
  | symbol hne hall =>
      refine ⟨?_, hall⟩
      rintro rfl
      exact hne rfl

mutual

/-- The rendering of a node is a layout of its tokens, wherever it stands. -/
theorem Node.exists_layout (node : Node)
    (hsymbols : ∀ text, .symbol text ∈ node.flatten → IsSymbolText text) (offset : Nat) :
    ∃ lexemes : List (Lexeme Nat), lexemes.map Lexeme.token = node.flatten ∧
      Layout false offset lexemes node.render := by
  match node with
  | .symbol text =>
      have hspelling := (hsymbols text (by simp [Node.flatten])).spelling
      rw [Node.flatten, Node.render]
      exact ⟨[⟨.symbol text, offset⟩], rfl, Layout.ofSpelling hspelling (fun _ => rfl) offset⟩
  | .string text =>
      have hspelling := Spelling.string (Text.unescapes_flatMap_escapeChar text.toList)
      rw [Node.flatten, Node.render]
      exact ⟨[⟨.string text, offset⟩], rfl, Layout.ofSpelling hspelling (fun _ => rfl) offset⟩
  | .expression children =>
      have hchildren : ∀ text, .symbol text ∈ flatten children → IsSymbolText text := by
        intro text hmem
        exact hsymbols text (by simp [Node.flatten, hmem])
      obtain ⟨lexemes, htokens, hlaid⟩ := exists_layout_renderAll children hchildren (offset + 1)
      have hopen : Layout false offset [⟨.openBracket, offset⟩] ['('] :=
        Layout.ofSpelling Spelling.openBracket (by simp [Token.isSymbol]) offset
      have hinside := hopen.append hlaid (fun hends => hends)
      have hwhole := hinside.append_spelling Spelling.closeBracket (by simp [Token.isSymbol])
      rw [Node.flatten, Node.render]
      refine ⟨_, ?_, hwhole⟩
      simp [htokens]

theorem exists_layout_renderAll (program : Program)
    (hsymbols : ∀ text, .symbol text ∈ flatten program → IsSymbolText text) (offset : Nat) :
    ∃ lexemes : List (Lexeme Nat), lexemes.map Lexeme.token = flatten program ∧
      Layout false offset lexemes (renderAll program) := by
  match program with
  | [] => exact ⟨[], rfl, Layout.nil Gap.nil⟩
  | [node] =>
      have hnode : flatten [node] = node.flatten := by simp [flatten]
      rw [hnode] at hsymbols ⊢
      rw [renderAll]
      exact node.exists_layout hsymbols offset
  | node :: next :: nodes =>
      have hfirst : ∀ text, .symbol text ∈ node.flatten → IsSymbolText text := by
        intro text hmem
        exact hsymbols text (by simp [flatten, hmem])
      have hrest : ∀ text, .symbol text ∈ flatten (next :: nodes) → IsSymbolText text := by
        intro text hmem
        exact hsymbols text (by rw [flatten]; exact List.mem_append_right _ hmem)
      obtain ⟨first, hfirstTokens, hfirstLaid⟩ := node.exists_layout hfirst offset
      have hspaced := hfirstLaid.append_gap (Gap.delimiter (c := ' ') rfl Gap.nil)
      obtain ⟨rest, hrestTokens, hrestLaid⟩ := exists_layout_renderAll (next :: nodes) hrest
        (offset + (node.render ++ [' ']).length)
      have hwhole := hspaced.append hrestLaid fun hends => by
        rw [endsSymbol_concat] at hends
        exact hends
      refine ⟨first ++ rest, ?_, ?_⟩
      · rw [flatten, List.map_append, hfirstTokens, hrestTokens]
      · simpa [renderAll] using hwhole

end

theorem read_of_tokenize_error {source : String} {error : LexError}
    (h : tokenize source = .error error) : read source = .error (.lexical error) := by
  rw [read, h]
  rfl

theorem read_of_tokenize {source : String} {lexemes : List (Lexeme Nat)}
    (h : tokenize source = .ok lexemes) :
    read source = (parse lexemes).mapError ReadError.bracket := by
  rw [read, h]
  rfl

theorem read_eq_ok_iff {source : String} {program : Program} :
    read source = .ok program ↔
      ∃ lexemes, tokenize source = .ok lexemes ∧ parse lexemes = .ok program := by
  cases htokenize : tokenize source with
  | error error =>
      rw [read_of_tokenize_error htokenize]
      constructor
      · intro h
        cases h
      · rintro ⟨lexemes, hlexemes, -⟩
        cases hlexemes
  | ok lexemes =>
      rw [read_of_tokenize htokenize]
      constructor
      · intro h
        cases hparse : parse lexemes with
        | error error =>
            rw [hparse] at h
            cases h
        | ok found =>
            rw [hparse] at h
            cases h
            exact ⟨lexemes, rfl, hparse⟩
      · rintro ⟨found, hfound, hparse⟩
        cases hfound
        rw [hparse]
        rfl

/-- A program survives printing and reading exactly when each of its symbols, at every
depth, has a text that can stand for a symbol. -/
theorem read_toSource_eq_ok_iff (program : Program) :
    read (toSource program) = .ok program ↔
      ∀ text, Occurs (.symbol text) program → IsSymbolText text := by
  rw [read_eq_ok_iff]
  constructor
  · rintro ⟨lexemes, htokenize, hparse⟩ text hoccurs
    obtain ⟨body, tail, -, hlaid, -⟩ := isLayout_of_tokenize htokenize
    have hmem := hoccurs.mem_flatten
    rw [← flatten_of_parse hparse] at hmem
    obtain ⟨lexeme, hlexeme, htoken⟩ := List.mem_map.1 hmem
    obtain ⟨spelling, hspelling⟩ := hlaid.exists_spelling lexeme hlexeme
    rw [htoken] at hspelling
    exact hspelling.isSymbolText
  · intro hsymbols
    obtain ⟨lexemes, htokens, hlaid⟩ := exists_layout_renderAll program
      (fun text hmem => hsymbols text (occurs_of_mem_flatten program hmem)) 0
    refine ⟨lexemes, tokenize_of_isLayout ?_, parse_of_flatten htokens⟩
    rw [toList_toSource]
    exact ⟨renderAll program, [], (List.append_nil _).symm, hlaid, OpenComment.nil⟩

end SexpReader
