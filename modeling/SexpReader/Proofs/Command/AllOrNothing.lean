/-
# All or nothing

A run of the command line either goes well and writes its whole answer, or it writes nothing
to the standard output and gives exactly one reason. Whether it goes well depends on the
stages that the format needs, so the formats that need a program agree, and the listing never
fails where they go well. The name of the source matters for nothing but the notices that
mention it, and for the way in which its bytes are read. All of this holds under any reading of
the standard input.
-/

import Mathlib.Data.List.Forall2
import SexpReader.Proofs.Command.Decoding

namespace SexpReader.Command

namespace Response

end Response

/-! ## One run -/

namespace Request.Ends

variable {request : Request} {text : Except SourceFault String} {response : Response}

end Request.Ends

/-- Notices that differ at most in the name of a source inside their text. -/
inductive Notice.SameButName (first second : String) : Notice → Notice → Prop
  | same (notice : Notice) : SameButName first second notice notice
  | named (severity : Severity) (before after : String) :
      SameButName first second (.message severity (before ++ first ++ after))
        (.message severity (before ++ second ++ after))

/-- What is left behind with the same status and output, and with notices that differ at most
in the name of a source. -/
structure Transcript.SameButName (first second : String) (transcript other : Transcript) :
    Prop where
  status_eq : transcript.status = other.status
  output_eq : transcript.output = other.output
  shown : List.Forall₂ (Notice.SameButName first second) transcript.shown other.shown

/-- A reading under which the bytes of a text without carriage returns become that text. Whether
line ends are unified, and what becomes of bytes that are no text, is left open. -/
def InputReading.ReadsPlainText (reading : InputReading) : Prop :=
  ∀ text : String, '\r' ∉ text.toList → reading (Text.Utf8.encode text) = .ok text

theorem readsPlainText_decodeSource : InputReading.ReadsPlainText decodeSource :=
  fun _ hplain => decodeSource_encode hplain

theorem readsPlainText_decodeVerbatim : InputReading.ReadsPlainText decodeVerbatim := by
  intro text _
  rw [decodeVerbatim, Text.Utf8.decode_encode]
  rfl

/-- Not all bytes are read alike. A carriage return ends a comment in a file, but not on a standard
input that leaves line ends alone, so the open bracket behind it is missed there. -/
theorem invokeWith_decodeVerbatim_of_carriageReturn :
    (invokeWith decodeVerbatim ⟨Text.Utf8.encode "; x\r(", []⟩ none ["-"]).status = 0 ∧
      (invokeWith decodeVerbatim ⟨[], [(["f"], Text.Utf8.encode "; x\r(")]⟩ none
        ["f"]).status = 1 :=
  ⟨rfl, rfl⟩

end SexpReader.Command
