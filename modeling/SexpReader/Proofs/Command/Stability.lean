/-
# Canonical output read again

What the command line writes in canonical source is a source that it gives back unchanged,
and for which it writes the same JSON as for the original. Between the two runs the output is
encoded, decoded, and freed of carriage returns; it has none, because its source had none
when it was cut into lexemes. The line end behind the output is a gap.
-/

import SexpReader.Proofs.Command.Decoding
import SexpReader.Proofs.Node.Alphabet
import SexpReader.Proofs.Node.Canonical

namespace SexpReader.Command

/-! ## From one run to the next -/

/-- The canonical text of a program holds no carriage return, if its source holds none. -/
theorem not_mem_toSource {source : String} {program : Program}
    (hread : read source = .ok program) (h : '\r' ∉ source.toList) :
    '\r' ∉ (toSource program).toList := by
  intro hmem
  rcases mem_toSource_of_read hread hmem with hpunctuation | hsource
  · revert hpunctuation
    decide
  · exact h hsource

/-- A line end behind the canonical text of a program changes nothing. -/
theorem read_toSource_newline {source : String} {program : Program}
    (hread : read source = .ok program) : read (toSource program ++ "\n") = .ok program := by
  obtain ⟨lexemes, htokens, hlaid⟩ :=
    exists_layout_renderAll program (HasSymbolTexts.of_read hread) 0
  have hline := hlaid.append_gap (Gap.delimiter (c := '\n') rfl Gap.nil)
  refine read_eq_ok_iff_isLayout.2 ⟨lexemes, ?_, htokens⟩
  rw [String.toList_append, toList_toSource]
  exact hline.isLayout

/-! ## Answers with a program -/

/-- What is written for a program. -/
def Request.print (request : Request) (program : Program) : String :=
  (if request.format = .json then toJson program else toSource program) ++ "\n"

/-- A request that needs a program and succeeds has read one. -/
theorem Request.Ends.exists_program {request : Request} {text : Except SourceFault String}
    {response : Response} (h : request.Ends text response) (hformat : request.format ≠ .lexemes)
    (hstatus : response.status = 0) :
    ∃ source program, text = .ok source ∧ read source = .ok program ∧
      response.output = request.print program := by
  cases h with
  | unread _ | lexical _ | bracket _ _ _ => cases hstatus
  | listed _ hlexemes => exact absurd hlexemes hformat
  | printed htokenize _ hparse =>
      exact ⟨_, _, rfl, read_eq_ok_iff.2 ⟨_, htokenize, hparse⟩, rfl⟩

/-- A request that needs a program succeeds where it can read one. -/
theorem Request.answer_of_read (request : Request) {source : String} {program : Program}
    (hformat : request.format ≠ .lexemes) (hread : read source = .ok program) :
    (request.answer (.ok source)).status = 0 ∧
      (request.answer (.ok source)).output = request.print program := by
  obtain ⟨lexemes, htokenize, hparse⟩ := read_eq_ok_iff.1 hread
  obtain ⟨name, format⟩ := request
  simp only [answer, answerText, htokenize]
  cases format with
  | lexemes => exact absurd rfl hformat
  | source | json =>
      simp only [answerProgram, hparse]
      exact ⟨rfl, rfl⟩

/-- Where canonical source is written, the bytes of that output are a source for which the
same canonical source is written again, and the same JSON as for the original. -/
theorem run_output_again {surroundings other : Surroundings} {source name : String}
    {arguments : List String} (hasks : Asks arguments ⟨source, .source⟩)
    (hstatus : (run surroundings arguments).status = 0)
    (hbytes : other.fetch name = .ok (Text.Utf8.encode (run surroundings arguments).output)) :
    (∀ again, Asks again ⟨name, .source⟩ →
        (run other again).status = 0 ∧
          (run other again).output = (run surroundings arguments).output) ∧
      (run surroundings [source, "json"]).status = 0 ∧
      (run other [name, "json"]).status = 0 ∧
      (run other [name, "json"]).output = (run surroundings [source, "json"]).output := by
  have hsource : Format.source ≠ .lexemes := by decide
  have hjson : Format.json ≠ .lexemes := by decide
  rw [run_of_asks surroundings hasks] at hstatus hbytes ⊢
  obtain ⟨text, program, htext, hread, houtput⟩ :=
    (Request.ends_answer _ _).exists_program hsource hstatus
  obtain ⟨bytes, -, hdecode⟩ := fetch_bind_eq_ok_iff.1 htext
  rw [houtput] at hbytes ⊢
  -- The output survives the way through its bytes.
  have hclean : '\r' ∉ (toSource program ++ "\n").toList := by
    rw [String.toList_append, List.mem_append, not_or]
    exact ⟨not_mem_toSource hread (not_mem_of_decodeSource hdecode), by decide⟩
  have hsecond : other.fetch name >>= decodeSource = .ok (toSource program ++ "\n") :=
    fetch_bind_eq_ok_iff.2 ⟨_, hbytes, decodeSource_encode hclean⟩
  have hagain := read_toSource_newline hread
  obtain ⟨hfirst, hwritten⟩ := Request.answer_of_read ⟨source, .json⟩ hjson hread
  obtain ⟨hthen, hrewritten⟩ := Request.answer_of_read ⟨name, .json⟩ hjson hagain
  refine ⟨?_, ?_, ?_, ?_⟩
  · intro again hasksAgain
    rw [run_of_asks other hasksAgain, hsecond]
    exact Request.answer_of_read ⟨name, .source⟩ hsource hagain
  · rw [run_of_asks surroundings (Asks.json source), htext]
    exact hfirst
  · rw [run_of_asks other (Asks.json name), hsecond]
    exact hthen
  · rw [run_of_asks other (Asks.json name), run_of_asks surroundings (Asks.json source), hsecond,
      htext, hwritten, hrewritten]
    rfl

/-- A string with a line end of two characters and a character of two bytes, and a comment
behind it. -/
theorem run_output_again_of_line_end :
    (run ⟨Text.Utf8.encode "\"\r\né\";c", []⟩ ["-"]).status = 0 ∧
      (run ⟨Text.Utf8.encode "\"\r\né\";c", []⟩ ["-"]).output = "\"\né\"\n" ∧
      (run ⟨[], [(["o"], Text.Utf8.encode "\"\né\"\n")]⟩ ["o", "sexp"]).output =
        "\"\né\"\n" ∧
      (run ⟨[], [(["o"], Text.Utf8.encode "\"\né\"\n")]⟩ ["o", "json"]).output =
        (run ⟨Text.Utf8.encode "\"\r\né\";c", []⟩ ["-", "json"]).output := by
  have hstatus : (run ⟨Text.Utf8.encode "\"\r\né\";c", []⟩ ["-"]).status = 0 := rfl
  have hread : read "\"\né\";c" = .ok [.string "\né"] := rfl
  have hsource : toSource [.string "\né"] = "\"\né\"" :=
    String.toList_inj.1 (toList_toSource _)
  have houtput : (run ⟨Text.Utf8.encode "\"\r\né\";c", []⟩ ["-"]).output =
      "\"\né\"\n" := by
    have hprinted := (Request.answer_of_read ⟨"-", .source⟩ (by decide) hread).2
    rw [Request.print, if_neg (by decide), hsource] at hprinted
    exact hprinted
  have hbytes : (⟨[], [(["o"], Text.Utf8.encode "\"\né\"\n")]⟩ : Surroundings).fetch "o" =
      .ok (Text.Utf8.encode (run ⟨Text.Utf8.encode "\"\r\né\";c", []⟩ ["-"]).output) := by
    rw [houtput]
    rfl
  obtain ⟨hagain, -, -, hjson⟩ := run_output_again (Asks.bare "-") hstatus hbytes
  obtain ⟨-, hsame⟩ := hagain _ (Asks.source "o")
  exact ⟨hstatus, houtput, hsame.trans houtput, hjson⟩

end SexpReader.Command
