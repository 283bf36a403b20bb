/-
# Where lexemes stand

The offsets of the lexemes of a layout increase and lie inside the text. A symbol is spelled at
its offset and is maximal: neither in front of it nor behind it stands a character that could
belong to it.
-/

import SexpReader.Proofs.Lexeme.Tokenizing

namespace SexpReader

theorem endsSymbol_cons (afterSymbol : Bool) (c : Char) (text : List Char) :
    endsSymbol afterSymbol (c :: text) = endsSymbol (isSymbolChar c) text := rfl

/-- A gap that begins the text, or is not empty, does not end in a symbol. -/
theorem Gap.endsSymbol_eq_false {gap : List Char} (h : Gap gap) {afterSymbol : Bool}
    (hseparate : afterSymbol = true → gap ≠ []) : endsSymbol afterSymbol gap = false := by
  induction h generalizing afterSymbol with
  | nil =>
      rw [endsSymbol_nil, Bool.eq_false_iff]
      exact fun hafter => hseparate hafter rfl
  | delimiter hc _ ih =>
      have hother : isSymbolChar _ = false := (Gap.delimiter hc Gap.nil).isSymbolChar_head
      rw [endsSymbol_cons, hother]
      exact ih (by simp)
  | comment _ _ ih =>
      rw [List.cons_append, endsSymbol_cons, endsSymbol_append, endsSymbol_cons]
      exact ih (by simp [isSymbolChar, isDelimiter])

/-- A symbol at an offset of a text that cannot be made longer on either side. -/
structure IsMaximalSymbol (source : List Char) (start : Nat) (text : List Char) : Prop where
  ne_nil : text ≠ []
  spelled : source.extract start (start + text.length) = text
  isSymbolChar_of_mem : ∀ c ∈ text, isSymbolChar c = true
  not_in_front : ∀ i c, i + 1 = start → source[i]? = some c → isSymbolChar c = false
  not_behind : ∀ c, source[start + text.length]? = some c → isSymbolChar c = false

/-- The part of a text between two others. -/
theorem extract_append_append {α : Type} (before middle rest : List α) :
    (before ++ middle ++ rest).extract before.length (before.length + middle.length) = middle := by
  simp [List.extract_eq_take_drop]

/-- What a text ends with can be told from its last character. -/
theorem isSymbolChar_getLast {before rest : List Char} (h : endsSymbol false before = false)
    {i : Nat} {c : Char} (hlast : i + 1 = before.length) (hc : (before ++ rest)[i]? = some c) :
    isSymbolChar c = false := by
  obtain ⟨front, last, rfl⟩ : ∃ front last, before = front ++ [last] := by
    rcases List.eq_nil_or_concat before with rfl | ⟨front, last, rfl⟩
    · cases hlast
    · exact ⟨front, last, by simp⟩
  obtain rfl : i = front.length := by simpa using hlast
  obtain rfl : last = c := by simpa using hc
  rwa [endsSymbol_concat] at h

/-- A symbol between characters that cannot belong to it is maximal. -/
theorem IsMaximalSymbol.of_append {before text behind : List Char} (hne : text ≠ [])
    (hall : ∀ c ∈ text, isSymbolChar c = true) (hfront : endsSymbol false before = false)
    (hbehind : ∀ c rest, behind = c :: rest → isSymbolChar c = false) :
    IsMaximalSymbol (before ++ text ++ behind) before.length text where
  ne_nil := hne
  spelled := extract_append_append before text behind
  isSymbolChar_of_mem := hall
  not_in_front i c hi hc := by
    rw [List.append_assoc] at hc
    exact isSymbolChar_getLast hfront hi hc
  not_behind c hc := by
    cases behind with
    | nil => simp at hc
    | cons d rest =>
        obtain rfl : d = c := by simpa [List.getElem?_append_right] using hc
        exact hbehind d rest rfl

namespace Layout

variable {afterSymbol : Bool} {offset : Nat} {lexemes : List (Lexeme Nat)} {text : List Char}

/-- Every lexeme starts inside the text. -/
theorem position_bounds (h : Layout afterSymbol offset lexemes text) :
    ∀ lexeme ∈ lexemes, offset ≤ lexeme.position ∧ lexeme.position < offset + text.length := by
  induction h with
  | nil _ => simp
  | cons _ hspelling _ _ ih =>
      have hpos := List.length_pos_iff.2 hspelling.ne_nil
      intro lexeme hmem
      rcases List.mem_cons.1 hmem with rfl | hlater
      · simp only [List.length_append]
        omega
      · have hbounds := ih lexeme hlater
        simp only [List.length_append]
        omega

/-- The lexemes start one behind the other. -/
theorem pairwise_position (h : Layout afterSymbol offset lexemes text) :
    lexemes.Pairwise fun first second => first.position < second.position := by
  induction h with
  | nil _ => exact List.Pairwise.nil
  | cons _ hspelling _ hrest ih =>
      refine List.Pairwise.cons ?_ ih
      intro later hlater
      have hpos := List.length_pos_iff.2 hspelling.ne_nil
      have hbounds := hrest.position_bounds later hlater
      dsimp only
      omega

/-- A symbol of a layout stands between characters that cannot belong to it. -/
theorem exists_symbol_append (h : Layout afterSymbol offset lexemes text) {symbol : String}
    {start : Nat} (hmem : ⟨.symbol symbol, start⟩ ∈ lexemes) :
    ∃ before behind, text = before ++ symbol.toList ++ behind ∧ start = offset + before.length ∧
      Spelling (.symbol symbol) symbol.toList ∧ endsSymbol afterSymbol before = false ∧
      ∀ c rest, behind = c :: rest → isSymbolChar c = false := by
  induction h with
  | nil _ => cases hmem
  | @cons afterSymbol offset token later gap spelling rest hgap hspelling hseparate hrest ih =>
      rcases List.mem_cons.1 hmem with hhere | hlater
      · obtain ⟨rfl, rfl⟩ := Lexeme.mk.inj hhere
        have hfront : endsSymbol afterSymbol gap = false :=
          hgap.endsSymbol_eq_false fun hafter => hseparate hafter rfl
        have hbehind : ∀ c tail, rest = c :: tail → isSymbolChar c = false := by
          rintro c tail rfl
          exact hrest.isSymbolChar_head
        cases hspelling with
        | symbol hne hall => exact ⟨gap, rest, rfl, rfl, Spelling.symbol hne hall, hfront, hbehind⟩
      · obtain ⟨before, behind, rfl, rfl, hsymbol, hfront, hbehind⟩ := ih hlater
        refine ⟨gap ++ spelling ++ before, behind, by simp, ?_, hsymbol, ?_, hbehind⟩
        · simp only [List.length_append]
          omega
        · rw [endsSymbol_append, endsSymbol_append, hspelling.endsSymbol_eq]
          exact hfront

end Layout

/-- Every symbol that is found in a text is maximal. -/
theorem IsLayout.isMaximalSymbol {lexemes : List (Lexeme Nat)} {source : List Char}
    (h : IsLayout lexemes source) {symbol : String} {start : Nat}
    (hmem : ⟨.symbol symbol, start⟩ ∈ lexemes) :
    IsMaximalSymbol source start symbol.toList := by
  obtain ⟨body, tail, rfl, hlaid, htail⟩ := h
  obtain ⟨before, behind, rfl, rfl, hsymbol, hfront, hbehind⟩ := hlaid.exists_symbol_append hmem
  have hclosed : ∀ c rest, behind ++ tail = c :: rest → isSymbolChar c = false := by
    intro c rest hsplit
    cases behind with
    | cons d more =>
        obtain ⟨rfl, -⟩ := List.cons.inj hsplit
        exact hbehind d more rfl
    | nil =>
        cases htail with
        | nil => cases hsplit
        | comment _ =>
            obtain ⟨rfl, -⟩ := List.cons.inj hsplit
            rfl
  cases hsymbol with
  | symbol hne hall =>
      rw [Nat.zero_add, List.append_assoc]
      exact IsMaximalSymbol.of_append hne hall hfront hclosed

end SexpReader
