/-
# Layouts side by side

Facts about gaps, spellings and layouts that need no scanner. The main statement puts two
layouts side by side. The seam may separate any two tokens except two symbols, which would
become one; whether a text ends behind a symbol can be told from its last character.
-/

import SexpReader.Lexeme.Layout

namespace SexpReader

theorem Gap.append {first second : List Char} (hfirst : Gap first) (hsecond : Gap second) :
    Gap (first ++ second) := by
  induction hfirst with
  | nil => exact hsecond
  | delimiter hc _ ih => exact Gap.delimiter hc ih
  | comment hbody _ ih =>
      simp only [List.append_assoc, List.cons_append] at ih ⊢
      exact Gap.comment hbody ih

/-- No gap begins with a character that may stand in a symbol. -/
theorem Gap.isSymbolChar_head {c : Char} {rest : List Char} (h : Gap (c :: rest)) :
    isSymbolChar c = false := by
  cases h with
  | delimiter hc _ => simp [isSymbolChar, hc]
  | comment _ _ => rfl

theorem Spelling.ne_nil {token : Token} {spelling : List Char} (h : Spelling token spelling) :
    spelling ≠ [] := by
  cases h with
  | symbol hne _ => exact hne
  | openBracket | closeBracket | string _ => simp

/-- Only the spelling of a symbol begins with a character that may stand in one. -/
theorem Spelling.isSymbolChar_head {token : Token} {c : Char} {rest : List Char}
    (h : Spelling token (c :: rest)) : isSymbolChar c = token.isSymbol := by
  generalize hspelling : c :: rest = spelling at h
  cases h with
  | symbol _ hall => exact hall c (by simp [← hspelling])
  | openBracket | closeBracket | string _ =>
      obtain ⟨rfl, -⟩ := List.cons.inj hspelling
      rfl

theorem Unescapes.append {first second firstText secondText : List Char}
    (hfirst : Unescapes first firstText) (hsecond : Unescapes second secondText) :
    Unescapes (first ++ second) (firstText ++ secondText) := by
  induction hfirst with
  | nil => exact hsecond
  | plain hquote hslash _ ih => exact Unescapes.plain hquote hslash ih
  | escaped _ ih => exact Unescapes.escaped ih

theorem Spelling.push {text : String} {spelling : List Char}
    (h : Spelling (.symbol text) spelling) {c : Char} (hc : isSymbolChar c = true) :
    Spelling (.symbol (text.push c)) (text.push c).toList := by
  cases h with
  | symbol _ hall =>
      refine Spelling.symbol (by simp) ?_
      intro d hd
      rw [String.toList_push, List.mem_append, List.mem_singleton] at hd
      rcases hd with hd | rfl
      · exact hall d hd
      · exact hc

theorem Unescapes.push {body : List Char} {text : String} (h : Unescapes body text.toList)
    {c : Char} (hquote : c ≠ '"') (hslash : c ≠ '\\') :
    Unescapes (body ++ [c]) (text.push c).toList := by
  rw [String.toList_push]
  exact h.append (Unescapes.plain hquote hslash Unescapes.nil)

theorem Unescapes.push_escaped {body : List Char} {text : String}
    (h : Unescapes body text.toList) (c : Char) :
    Unescapes (body ++ ['\\', c]) (text.push c).toList := by
  rw [String.toList_push]
  exact h.append (Unescapes.escaped Unescapes.nil)

/-- A front of the body of a string is a body itself, except that a backslash at its end may
have lost the character behind it. -/
theorem Unescapes.exists_of_append {front rest text : List Char}
    (h : Unescapes (front ++ rest) text) :
    ∃ body kept, Unescapes body kept ∧ (front = body ∨ front = body ++ ['\\']) := by
  generalize hwhole : front ++ rest = whole at h
  induction h generalizing front with
  | nil =>
      obtain ⟨rfl, -⟩ := List.append_eq_nil_iff.1 hwhole
      exact ⟨[], [], Unescapes.nil, Or.inl rfl⟩
  | @plain c _ _ hquote hslash _ ih =>
      cases front with
      | nil => exact ⟨[], [], Unescapes.nil, Or.inl rfl⟩
      | cons d front =>
          obtain ⟨rfl, hrest⟩ := List.cons.inj hwhole
          obtain ⟨body, kept, hbody, hfront⟩ := ih hrest
          refine ⟨d :: body, d :: kept, Unescapes.plain hquote hslash hbody, ?_⟩
          exact hfront.imp (congrArg (d :: ·)) (congrArg (d :: ·))
  | @escaped c _ _ _ ih =>
      match front with
      | [] => exact ⟨[], [], Unescapes.nil, Or.inl rfl⟩
      | [d] =>
          -- The cut is right behind the backslash.
          obtain ⟨rfl, -⟩ := List.cons.inj hwhole
          exact ⟨[], [], Unescapes.nil, Or.inr rfl⟩
      | d :: e :: front =>
          obtain ⟨rfl, hescaped⟩ := List.cons.inj hwhole
          obtain ⟨rfl, hrest⟩ := List.cons.inj hescaped
          obtain ⟨body, kept, hbody, hfront⟩ := ih hrest
          refine ⟨'\\' :: e :: body, e :: kept, Unescapes.escaped hbody, ?_⟩
          exact hfront.imp (congrArg ('\\' :: e :: ·)) (congrArg ('\\' :: e :: ·))

/-- The spellings of two symbols side by side spell one symbol. -/
theorem Spelling.append_symbol {first second : String} {spelling more : List Char}
    (hfirst : Spelling (.symbol first) spelling) (hsecond : Spelling (.symbol second) more) :
    Spelling (.symbol (first ++ second)) (spelling ++ more) := by
  cases hfirst with
  | symbol hne hall =>
      cases hsecond with
      | symbol _ hmore =>
          rw [← String.toList_append]
          apply Spelling.symbol
          · simp [hne]
          · intro c hc
            rw [String.toList_append, List.mem_append] at hc
            exact hc.elim (hall c) (hmore c)

/-- Whether a text ends right behind a symbol, when it begins right behind one or not. A
symbol is the only token that ends with a character of its class. -/
def endsSymbol (afterSymbol : Bool) (text : List Char) : Bool :=
  text.foldl (fun _ c => isSymbolChar c) afterSymbol

@[simp]
theorem endsSymbol_nil (afterSymbol : Bool) : endsSymbol afterSymbol [] = afterSymbol := rfl

@[simp]
theorem endsSymbol_append (afterSymbol : Bool) (first second : List Char) :
    endsSymbol afterSymbol (first ++ second) =
      endsSymbol (endsSymbol afterSymbol first) second :=
  List.foldl_append

@[simp]
theorem endsSymbol_singleton (afterSymbol : Bool) (c : Char) :
    endsSymbol afterSymbol [c] = isSymbolChar c := rfl

theorem endsSymbol_concat (afterSymbol : Bool) (text : List Char) (c : Char) :
    endsSymbol afterSymbol (text ++ [c]) = isSymbolChar c := by
  rw [endsSymbol_append, endsSymbol_singleton]

theorem endsSymbol_of_forall {text : List Char} (hne : text ≠ [])
    (hall : ∀ c ∈ text, isSymbolChar c = true) (afterSymbol : Bool) :
    endsSymbol afterSymbol text = true := by
  obtain ⟨front, last, rfl⟩ := List.eq_nil_or_concat text |>.resolve_left hne
  rw [List.concat_eq_append, endsSymbol_concat]
  exact hall last (by simp)

/-- A spelling ends behind a symbol exactly when it spells one. -/
theorem Spelling.endsSymbol_eq {token : Token} {spelling : List Char}
    (h : Spelling token spelling) (afterSymbol : Bool) :
    endsSymbol afterSymbol spelling = token.isSymbol := by
  cases h with
  | openBracket | closeBracket => rfl
  | symbol hne hall => exact endsSymbol_of_forall hne hall afterSymbol
  | string _ => exact endsSymbol_concat _ _ _

namespace Layout

/-- Behind a symbol a layout goes on with anything but a character of that symbol's class.
-/
theorem isSymbolChar_head {offset : Nat} {lexemes : List (Lexeme Nat)} {c : Char}
    {rest : List Char} (h : Layout true offset lexemes (c :: rest)) : isSymbolChar c = false := by
  generalize htext : c :: rest = text at h
  cases h with
  | nil hgap =>
      subst htext
      exact hgap.isSymbolChar_head
  | @cons _ _ token _ gap spelling _ hgap hspelling hseparate _ =>
      cases gap with
      | cons d gap =>
          obtain ⟨rfl, -⟩ := List.cons.inj htext
          exact hgap.isSymbolChar_head
      | nil =>
          obtain ⟨d, spelling, rfl⟩ := List.exists_cons_of_ne_nil hspelling.ne_nil
          obtain ⟨rfl, -⟩ := List.cons.inj htext
          have hother : token.isSymbol ≠ true := fun hsymbol => hseparate rfl hsymbol rfl
          rw [hspelling.isSymbolChar_head, Bool.eq_false_iff]
          exact hother

/-- A gap in front of a layout widens its first gap, so that the layout may then begin
behind a symbol, unless the gap is empty. -/
theorem gap_append {afterSymbol before : Bool} {offset : Nat} {lexemes : List (Lexeme Nat)}
    {gap text : List Char} (hgap : Gap gap)
    (h : Layout afterSymbol (offset + gap.length) lexemes text)
    (hseam : before = true → gap = [] → afterSymbol = true) :
    Layout before offset lexemes (gap ++ text) := by
  cases h with
  | nil hnext => exact Layout.nil (hgap.append hnext)
  | @cons _ _ token later next spelling rest hnext hspelling hseparate hrest =>
      have hwide : Layout before offset (⟨token, offset + (gap ++ next).length⟩ :: later)
          ((gap ++ next) ++ spelling ++ rest) := by
        refine Layout.cons (hgap.append hnext) hspelling ?_ ?_
        · intro hbefore hsymbol hempty
          obtain ⟨hgapEmpty, hnextEmpty⟩ := List.append_eq_nil_iff.1 hempty
          exact hseparate (hseam hbefore hgapEmpty) hsymbol hnextEmpty
        · simpa [Nat.add_assoc] using hrest
      simpa [Nat.add_assoc] using hwide

/-- Two layouts side by side are a layout, if the second may begin behind a symbol
whenever the first ends behind one. -/
theorem append {afterSymbol between : Bool} {offset : Nat} {first second : List (Lexeme Nat)}
    {text more : List Char} (hfirst : Layout afterSymbol offset first text)
    (hsecond : Layout between (offset + text.length) second more)
    (hseam : endsSymbol afterSymbol text = true → between = true) :
    Layout afterSymbol offset (first ++ second) (text ++ more) := by
  induction hfirst with
  | nil hgap =>
      refine hsecond.gap_append hgap fun hbefore hempty => hseam ?_
      rw [hempty, endsSymbol_nil, hbefore]
  | cons hgap hspelling hseparate _ ih =>
      rw [List.cons_append, List.append_assoc]
      refine Layout.cons hgap hspelling hseparate (ih ?_ ?_)
      · simpa [Nat.add_assoc] using hsecond
      · intro hends
        apply hseam
        rw [endsSymbol_append, endsSymbol_append, hspelling.endsSymbol_eq, hends]

/-- A token alone is laid out as its spelling, except a symbol right behind a symbol. -/
theorem ofSpelling {token : Token} {spelling : List Char} (h : Spelling token spelling)
    {afterSymbol : Bool} (hseparate : token.isSymbol = true → afterSymbol = false)
    (offset : Nat) : Layout afterSymbol offset [⟨token, offset⟩] spelling := by
  have hlayout : Layout afterSymbol offset [⟨token, offset + ([] : List Char).length⟩]
      ([] ++ spelling ++ []) := by
    refine Layout.cons Gap.nil h ?_ (Layout.nil Gap.nil)
    intro hafter hsymbol
    rw [hseparate hsymbol] at hafter
    contradiction
  simpa using hlayout

/-- A token can be added at the end, except a symbol right behind a symbol. -/
theorem append_spelling {afterSymbol : Bool} {offset : Nat} {lexemes : List (Lexeme Nat)}
    {text spelling : List Char} {token : Token} (h : Layout afterSymbol offset lexemes text)
    (hspelling : Spelling token spelling)
    (hseparate : token.isSymbol = true → endsSymbol afterSymbol text = false) :
    Layout afterSymbol offset (lexemes ++ [⟨token, offset + text.length⟩]) (text ++ spelling) :=
  h.append (ofSpelling hspelling hseparate _) id

theorem append_gap {afterSymbol : Bool} {offset : Nat} {lexemes : List (Lexeme Nat)}
    {text gap : List Char} (h : Layout afterSymbol offset lexemes text) (hgap : Gap gap) :
    Layout afterSymbol offset lexemes (text ++ gap) := by
  simpa using h.append (Layout.nil hgap) (fun hends => hends)

theorem exists_spelling {afterSymbol : Bool} {offset : Nat} {lexemes : List (Lexeme Nat)}
    {text : List Char} (h : Layout afterSymbol offset lexemes text) :
    ∀ lexeme ∈ lexemes, ∃ spelling, Spelling lexeme.token spelling := by
  induction h with
  | nil _ => simp
  | cons _ hspelling _ _ ih =>
      intro lexeme hmem
      rcases List.mem_cons.1 hmem with rfl | hlater
      · exact ⟨_, hspelling⟩
      · exact ih lexeme hlater

theorem isLayout {lexemes : List (Lexeme Nat)} {text : List Char}
    (h : Layout false 0 lexemes text) : IsLayout lexemes text :=
  ⟨text, [], (List.append_nil text).symm, h, OpenComment.nil⟩

theorem wholeTokens {afterSymbol : Bool} {offset : Nat} {lexemes : List (Lexeme Nat)}
    {text : List Char} (h : Layout afterSymbol offset lexemes text) : WholeTokens text := by
  induction h with
  | nil hgap => simpa using WholeTokens.gap hgap WholeTokens.nil
  | cons hgap hspelling _ _ ih =>
      rw [List.append_assoc]
      exact WholeTokens.gap hgap (WholeTokens.token hspelling ih)

/-- A layout may stand behind a symbol, unless it begins with one. -/
theorem behindSymbol_or {offset : Nat} {lexemes : List (Lexeme Nat)} {text : List Char}
    (h : Layout false offset lexemes text) :
    Layout true offset lexemes text ∨
      ∃ symbol spelling later rest, text = spelling ++ rest ∧
        Spelling (.symbol symbol) spelling ∧
        Layout true (offset + spelling.length) later rest := by
  cases h with
  | nil hgap => exact Or.inl (Layout.nil hgap)
  | @cons _ _ token later gap spelling rest hgap hspelling _ hrest =>
      by_cases hseam : token.isSymbol = true ∧ gap = []
      · obtain ⟨hsymbol, rfl⟩ := hseam
        cases token with
        | symbol symbol =>
            exact Or.inr ⟨symbol, spelling, later, rest, rfl, hspelling, hrest⟩
        | openBracket | closeBracket | string _ => cases hsymbol
      · apply Or.inl
        apply Layout.cons hgap hspelling _ hrest
        intro _ hsymbol hempty
        exact hseam ⟨hsymbol, hempty⟩

/-- Any token can stand in front of a layout. Where two symbols touch, one longer symbol
takes their place. -/
theorem exists_spelling_append {token : Token} {offset : Nat} {lexemes : List (Lexeme Nat)}
    {spelling text : List Char} (hspelling : Spelling token spelling)
    (h : Layout false (offset + spelling.length) lexemes text) :
    ∃ joined, Layout false offset joined (spelling ++ text) := by
  have hfirst := ofSpelling hspelling (fun _ => rfl) offset
  by_cases hsymbol : token.isSymbol = true
  · rcases h.behindSymbol_or with hbehind | ⟨second, more, later, rest, rfl, hmore, hbehind⟩
    · exact ⟨_, hfirst.append hbehind fun _ => rfl⟩
    · -- The symbol touches the first token of the layout, which is a symbol as well.
      obtain ⟨first, rfl⟩ : ∃ first, token = .symbol first := by
        cases token with
        | symbol first => exact ⟨first, rfl⟩
        | openBracket | closeBracket | string _ => cases hsymbol
      have hjoined := ofSpelling (hspelling.append_symbol hmore) (fun _ => rfl) offset
      have hrest : Layout true (offset + (spelling ++ more).length) later rest := by
        rw [List.length_append, ← Nat.add_assoc]
        exact hbehind
      rw [← List.append_assoc]
      exact ⟨_, hjoined.append hrest fun _ => rfl⟩
  · refine ⟨_, hfirst.append h ?_⟩
    intro hends
    rw [hspelling.endsSymbol_eq] at hends
    exact absurd hends hsymbol

end Layout

/-- Whole tokens can be laid out from any offset on. -/
theorem WholeTokens.exists_layout {text : List Char} (h : WholeTokens text) (offset : Nat) :
    ∃ lexemes, Layout false offset lexemes text := by
  induction h generalizing offset with
  | nil => exact ⟨[], Layout.nil Gap.nil⟩
  | @gap gap rest hgap _ ih =>
      obtain ⟨lexemes, hlaid⟩ := ih (offset + gap.length)
      exact ⟨lexemes, hlaid.gap_append hgap (by simp)⟩
  | @token token spelling rest hspelling _ ih =>
      obtain ⟨lexemes, hlaid⟩ := ih (offset + spelling.length)
      exact Layout.exists_spelling_append hspelling hlaid

end SexpReader
