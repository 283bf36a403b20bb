/-
# From bytes to text

What the command line makes of the bytes of a source. A run sees only the text that they are
decoded as, with its line ends made uniform, so other line ends in the same text make no
difference. Bytes that are not those of any text are refused, whatever the format and the log
level, with an error that locates the end of the longest text in front.
-/

import SexpReader.Proofs.Command.Answering
import SexpReader.Proofs.Command.Process
import SexpReader.Proofs.Text.Decoding
import SexpReader.Proofs.Text.Newline

namespace SexpReader.Command

/-! ## Texts and their line ends -/

theorem decodeSource_eq_unifyNewlines (text : String) :
    decodeSource (Text.Utf8.encode text) = .ok (Text.unifyNewlines text) := by
  rw [decodeSource, Text.Utf8.decode_encode]

theorem decodeSource_encode {text : String} (h : '\r' ∉ text.toList) :
    decodeSource (Text.Utf8.encode text) = .ok text := by
  rw [decodeSource_eq_unifyNewlines, Text.unifyNewlines_of_not_mem h]

theorem not_mem_of_decodeSource {bytes : List UInt8} {text : String}
    (h : decodeSource bytes = .ok text) : '\r' ∉ text.toList := by
  rw [decodeSource] at h
  split at h
  · cases h
    exact Text.not_mem_unifyNewlines _
  · cases h

/-- Sources of one name that are decoded alike are served alike. -/
theorem invoke_congr {surroundings other : Surroundings} {source : String}
    (h : surroundings.fetch source >>= decodeSource = other.fetch source >>= decodeSource)
    (setting : Option String) (rest : List String) :
    invoke surroundings setting (source :: rest) = invoke other setting (source :: rest) := by
  obtain ⟨format, hformat⟩ := exists_format rest
  rw [invoke, invoke, invokeWith, invokeWith, hformat]
  cases format with
  | none => rfl
  | some format =>
      simp only [Option.map_some, at_decodeSource]
      rw [h]

/-- A run leaves behind the same for a text without carriage returns, whichever line end its
source is written with. -/
theorem invoke_lineEnd (lineEnd : Text.LineEnd) {text : String} (hclean : '\r' ∉ text.toList)
    {surroundings other : Surroundings} {source : String}
    (hbytes : surroundings.fetch source = .ok (Text.Utf8.encode text))
    (hother : other.fetch source = .ok (Text.Utf8.encode (lineEnd.rewrite text)))
    (setting : Option String) (rest : List String) :
    invoke other setting (source :: rest) = invoke surroundings setting (source :: rest) := by
  apply invoke_congr
  rw [hbytes, hother]
  show decodeSource _ = decodeSource _
  rw [decodeSource_eq_unifyNewlines, Text.unifyNewlines_rewrite lineEnd hclean,
    decodeSource_encode hclean]

/-- A line end behind a backslash in a string and one behind a comment, in a file, written with
two characters each. The offset of the bracket does not count the carriage returns. -/
theorem invoke_lineEnd_of_escaped :
    '\r' ∉ "\"\\\n\";c\n(".toList ∧
      (⟨[], [(["f"], Text.Utf8.encode "\"\\\n\";c\n(")]⟩ : Surroundings).fetch "f" =
        .ok (Text.Utf8.encode "\"\\\n\";c\n(") ∧
      (⟨[], [(["f"], Text.Utf8.encode "\"\\\r\n\";c\r\n(")]⟩ : Surroundings).fetch "f" =
        .ok (Text.Utf8.encode (Text.LineEnd.carriageReturnLineFeed.rewrite "\"\\\n\";c\n(")) ∧
      invoke ⟨[], [(["f"], Text.Utf8.encode "\"\\\r\n\";c\r\n(")]⟩ none ["f", "json"] =
        invoke ⟨[], [(["f"], Text.Utf8.encode "\"\\\n\";c\n(")]⟩ none ["f", "json"] ∧
      (invoke ⟨[], [(["f"], Text.Utf8.encode "\"\\\r\n\";c\r\n(")]⟩ none ["f", "json"]).shown =
        [.message .error "Error: Unclosed bracket found at offset 7"] := by
  have hclean : '\r' ∉ "\"\\\n\";c\n(".toList := by decide
  have hbytes : (⟨[], [(["f"], Text.Utf8.encode "\"\\\n\";c\n(")]⟩ : Surroundings).fetch "f" =
      .ok (Text.Utf8.encode "\"\\\n\";c\n(") := rfl
  have hother : (⟨[], [(["f"], Text.Utf8.encode "\"\\\r\n\";c\r\n(")]⟩ : Surroundings).fetch "f" =
      .ok (Text.Utf8.encode (Text.LineEnd.carriageReturnLineFeed.rewrite "\"\\\n\";c\n(")) := rfl
  exact ⟨hclean, hbytes, hother,
    invoke_lineEnd .carriageReturnLineFeed hclean hbytes hother none ["json"], rfl⟩

/-! ## Bytes that are no text -/

/-- A run that gives nothing but one error, which is shown unless the level is above errors. -/
structure OnlyError (surroundings : Surroundings) (setting : Option String)
    (arguments : List String) (text : String) : Prop where
  notices_eq : (run surroundings arguments).notices = [.message .error text]
  status_eq : (invoke surroundings setting arguments).status = 1
  output_eq : (invoke surroundings setting arguments).output = ""
  shown_eq : (invoke surroundings setting arguments).shown =
    if Threshold.ofSetting setting ≤ Severity.error.rank then [.message .error text] else []

theorem onlyError_of_run {surroundings : Surroundings} {arguments : List String} {text : String}
    (h : run surroundings arguments = .failure [] text) (setting : Option String) :
    OnlyError surroundings setting arguments text where
  notices_eq := by
    rw [h]
    rfl
  status_eq := by
    rw [invoke_status, h]
    rfl
  output_eq := by
    rw [invoke_output, h]
    rfl
  shown_eq := by
    rw [invoke_shown, h, Response.failure, List.nil_append, List.filter_singleton]
    simp [Notice.isShown, Severity.isShown]

/-- The bytes of a text are served as that text, with uniform line ends, and as no other. All
other bytes are refused, under every format and log level, at the end of the longest text in
front. -/
theorem invoke_decodes {surroundings : Surroundings} {source : String} {bytes : List UInt8}
    (hbytes : surroundings.fetch source = .ok bytes) :
    (∀ text, bytes = Text.Utf8.encode text →
        (∀ other, bytes = Text.Utf8.encode other → other = text) ∧
        ∀ setting format arguments, Asks arguments ⟨source, format⟩ →
          invoke surroundings setting arguments =
            (Request.answer ⟨source, format⟩ (.ok (Text.unifyNewlines text))).transcript
              (Threshold.ofSetting setting)) ∧
      ((∀ text, bytes ≠ Text.Utf8.encode text) →
        ∃ offset reason, IsGreatest (Text.Utf8.textLengths bytes) offset ∧
          Text.Utf8.Complaint bytes offset reason ∧
          ∀ setting format arguments, Asks arguments ⟨source, format⟩ →
            OnlyError surroundings setting arguments
              ("Error reading " ++ source ++ ": " ++ reason)) := by
  constructor
  · rintro text rfl
    refine ⟨?_, ?_⟩
    · intro other hsame
      exact (Text.Utf8.encode_injective hsame).symm
    · intro setting format arguments hasks
      rw [invoke_eq_transcript, run_of_asks surroundings hasks, hbytes]
      show ((Request.answer _ (decodeSource _)).transcript _) = _
      rw [decodeSource_eq_unifyNewlines]
  · intro hnone
    cases hdecode : Text.Utf8.decode bytes with
    | ok text => exact absurd (Text.Utf8.decode_eq_ok_iff.1 hdecode) (hnone text)
    | error fault =>
        refine ⟨fault.offset, fault.message, Text.Utf8.Fault.isGreatest_offset hdecode,
          Text.Utf8.Fault.complaint_message hdecode, ?_⟩
        intro setting format arguments hasks
        apply onlyError_of_run
        have hsource : decodeSource bytes = .error (.encoding fault) := by
          rw [decodeSource, hdecode]
        rw [run_of_asks surroundings hasks, hbytes]
        show Request.answer _ (decodeSource bytes) = _
        rw [hsource]
        rfl

/-- Standard input that ends inside a character, behind a character of two bytes and a line end
of two. -/
theorem invoke_decodes_of_truncated :
    (⟨[0xc3, 0xa9, 0x0d, 0x0a, 0xe2, 0x82], []⟩ : Surroundings).fetch "-" =
        .ok [0xc3, 0xa9, 0x0d, 0x0a, 0xe2, 0x82] ∧
      (∀ text, [0xc3, 0xa9, 0x0d, 0x0a, 0xe2, 0x82] ≠ Text.Utf8.encode text) ∧
      (∃ offset reason,
        IsGreatest (Text.Utf8.textLengths [0xc3, 0xa9, 0x0d, 0x0a, 0xe2, 0x82]) offset ∧
        Text.Utf8.Complaint [0xc3, 0xa9, 0x0d, 0x0a, 0xe2, 0x82] offset reason ∧
        ∀ setting format arguments, Asks arguments ⟨"-", format⟩ →
          OnlyError ⟨[0xc3, 0xa9, 0x0d, 0x0a, 0xe2, 0x82], []⟩ setting arguments
            ("Error reading -: " ++ reason)) ∧
      (run ⟨[0xc3, 0xa9, 0x0d, 0x0a, 0xe2, 0x82], []⟩ ["-"]).notices =
        [.message .error ("Error reading -: 'utf-8' codec can't decode bytes in position 4-5: " ++
          "unexpected end of data")] := by
  have hbytes : (⟨[0xc3, 0xa9, 0x0d, 0x0a, 0xe2, 0x82], []⟩ : Surroundings).fetch "-" =
      .ok [0xc3, 0xa9, 0x0d, 0x0a, 0xe2, 0x82] := rfl
  have hnone : ∀ text, [0xc3, 0xa9, 0x0d, 0x0a, 0xe2, 0x82] ≠ Text.Utf8.encode text := by
    intro text hsame
    cases Text.Utf8.decode_eq_ok_iff.2 hsame
  exact ⟨hbytes, hnone, (invoke_decodes hbytes).2 hnone, rfl⟩

end SexpReader.Command
