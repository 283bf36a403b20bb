/-
# What becomes of a request

The arguments that ask for something, the stages that have to go well for it, and the endings
that a request can come to. Facts about whole runs are case analyses over these endings.
-/

import SexpReader.Command.Run

namespace SexpReader.Command

/-! ## Arguments -/

/-- The arguments that ask for a source in a format. Without a format they ask for canonical
source. -/
inductive Asks : List String → Request → Prop
  | bare (source : String) : Asks [source] ⟨source, .source⟩
  | source (source : String) : Asks [source, "sexp"] ⟨source, .source⟩
  | json (source : String) : Asks [source, "json"] ⟨source, .json⟩
  | lexemes (source : String) : Asks [source, "lexemes"] ⟨source, .lexemes⟩

theorem ofArguments?_eq_some_iff {arguments : List String} {request : Request} :
    Request.ofArguments? arguments = some request ↔ Asks arguments request := by
  constructor
  · intro h
    match arguments with
    | [] => cases h
    | [source] =>
        cases h
        exact Asks.bare source
    | [source, name] =>
        obtain ⟨format, hname, rfl⟩ := Option.map_eq_some_iff.1 h
        unfold Format.ofName? at hname
        split at hname
        · cases hname
          exact Asks.source source
        · cases hname
          exact Asks.json source
        · cases hname
          exact Asks.lexemes source
        · cases hname
    | _ :: _ :: _ :: _ => cases h
  · intro h
    cases h <;> rfl

theorem Asks.unique {arguments : List String} {request other : Request}
    (h : Asks arguments request) (hother : Asks arguments other) : request = other := by
  have hsame := (ofArguments?_eq_some_iff.2 h).symm.trans (ofArguments?_eq_some_iff.2 hother)
  exact Option.some.inj hsame

/-- The arguments behind the name of a source settle the format, or that there is none. -/
theorem exists_format (rest : List String) :
    ∃ format : Option Format, ∀ source,
      Request.ofArguments? (source :: rest) = format.map (Request.mk source) := by
  match rest with
  | [] => exact ⟨some .source, fun _ => rfl⟩
  | [name] => exact ⟨Format.ofName? name, fun _ => rfl⟩
  | _ :: _ :: _ => exact ⟨none, fun _ => rfl⟩

theorem runWith_of_asks (reading : InputReading) (surroundings : Surroundings)
    {arguments : List String} {request : Request} (h : Asks arguments request) :
    runWith reading surroundings arguments =
      request.answer (surroundings.fetch request.source >>= reading.at request.source) := by
  rw [runWith, ofArguments?_eq_some_iff.2 h]

/-- A standard input that is read like a file is no exception. -/
theorem at_decodeSource (source : String) : InputReading.at decodeSource source = decodeSource :=
  ite_self decodeSource

theorem run_of_asks (surroundings : Surroundings) {arguments : List String} {request : Request}
    (h : Asks arguments request) :
    run surroundings arguments =
      request.answer (surroundings.fetch request.source >>= decodeSource) := by
  rw [run, runWith_of_asks decodeSource surroundings h, at_decodeSource]

/-! ## Endings -/

/-- The five endings of a request whose source is had as text, or cannot be had. -/
inductive Request.Ends (request : Request) : Except SourceFault String → Response → Prop
  | unread (fault : SourceFault) :
      Ends request (.error fault)
        (.failure [] ("Error reading " ++ request.source ++ ": " ++ fault.message))
  | lexical {text : String} {error : LexError} :
      tokenize text = .error error →
      Ends request (.ok text) (.failure [] ("Error: " ++ error.message))
  | listed {text : String} {lexemes : List (Lexeme Nat)} :
      tokenize text = .ok lexemes → request.format = .lexemes →
      Ends request (.ok text)
        ⟨true, listing lexemes, [tokenizedNotice text.length lexemes.length]⟩
  | bracket {text : String} {lexemes : List (Lexeme Nat)} {error : BracketError Nat} :
      tokenize text = .ok lexemes → request.format ≠ .lexemes → parse lexemes = .error error →
      Ends request (.ok text)
        (.failure [tokenizedNotice text.length lexemes.length] ("Error: " ++ error.message))
  | printed {text : String} {lexemes : List (Lexeme Nat)} {program : Program} :
      tokenize text = .ok lexemes → request.format ≠ .lexemes → parse lexemes = .ok program →
      Ends request (.ok text)
        ⟨true, (if request.format = .json then toJson program else toSource program) ++ "\n",
          [tokenizedNotice text.length lexemes.length,
            builtNotice program.length lexemes.length,
            parsedNotice program.length request.source]⟩

/-- Every answer is one of the endings. -/
theorem Request.ends_answer (request : Request) (text : Except SourceFault String) :
    request.Ends text (request.answer text) := by
  cases text with
  | error fault => exact Ends.unread fault
  | ok text =>
      rw [answer, answerText]
      cases htokenize : tokenize text with
      | error error => exact Ends.lexical htokenize
      | ok lexemes =>
          have hprogram (hformat : request.format ≠ .lexemes) :
              request.Ends (.ok text) (request.answerProgram lexemes
                [tokenizedNotice text.length lexemes.length]) := by
            rw [answerProgram]
            cases hparse : parse lexemes with
            | error error => exact Ends.bracket htokenize hformat hparse
            | ok program => exact Ends.printed htokenize hformat hparse
          cases hformat : request.format with
          | lexemes => exact Ends.listed htokenize hformat
          | source => exact hprogram (by rw [hformat]; decide)
          | json => exact hprogram (by rw [hformat]; decide)

/-- A source is had as text if its bytes are had and read. -/
theorem fetch_bind_eq_ok_iff {read : List UInt8 → Except SourceFault String}
    {surroundings : Surroundings} {name text : String} :
    surroundings.fetch name >>= read = .ok text ↔
      ∃ bytes, surroundings.fetch name = .ok bytes ∧ read bytes = .ok text := by
  cases surroundings.fetch name with
  | error fault =>
      constructor
      · intro h
        cases h
      · rintro ⟨bytes, hbytes, -⟩
        cases hbytes
  | ok bytes =>
      constructor
      · intro htext
        exact ⟨bytes, rfl, htext⟩
      · rintro ⟨found, hfound, htext⟩
        cases hfound
        exact htext

end SexpReader.Command
