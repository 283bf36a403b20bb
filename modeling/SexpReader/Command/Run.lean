/-
# Running the command line

From arguments and bytes to a response. A run goes through its stages in order: arguments,
bytes, text, lexemes, program, answer. The first stage that fails ends it, and nothing is
written to the standard output unless all stages succeed. How bytes become text is settled
here for files only. The standard input is a stream of text when a run begins, so its reading
is a parameter of the run.
-/

import SexpReader.Command.Request
import SexpReader.Command.Response
import SexpReader.Command.Files
import SexpReader.Command.Listing
import SexpReader.Data
import SexpReader.Read
import SexpReader.Text.Newline
import SexpReader.Text.Utf8

namespace SexpReader.Command

/-- Why a source cannot be had as text. -/
inductive SourceFault
  | file (fault : FileFault) (path : PathName)
  | encoding (fault : Text.Utf8.Fault)
  deriving DecidableEq, Repr

/-- The wording of the reason. -/
def SourceFault.message : SourceFault → String
  | file fault path => fault.message path
  | encoding fault => fault.message

/-- The text of bytes, with all line ends as line feeds. -/
def decodeSource (bytes : List UInt8) : Except SourceFault String :=
  match Text.Utf8.decode bytes with
  | .ok text => .ok (Text.unifyNewlines text)
  | .error fault => .error (.encoding fault)

/-- The text of bytes as it stands. -/
def decodeVerbatim (bytes : List UInt8) : Except SourceFault String :=
  (Text.Utf8.decode bytes).mapError .encoding

/-- How the bytes on the standard input become text. That is settled by the system and the locale
that a run finds: whether line ends are unified or left alone, and what stands for bytes that are
no text where such are let through. Files are read by `decodeSource` in any case. -/
abbrev InputReading := List UInt8 → Except SourceFault String

/-- The message after cutting a text into lexemes. -/
def tokenizedNotice (characters lexemes : Nat) : Notice :=
  .message .debug <|
    "tokenized " ++ toString characters ++ " characters into " ++ toString lexemes ++ " lexemes"

/-- The message after building a program. -/
def builtNotice (nodes lexemes : Nat) : Notice :=
  .message .debug <|
    "built " ++ toString nodes ++ " top-level nodes from " ++ toString lexemes ++ " lexemes"

/-- The message before an answer is written. -/
def parsedNotice (nodes : Nat) (source : String) : Notice :=
  .message .info <|
    "parsed " ++ toString nodes ++ " top-level node(s) from " ++ source

namespace Request

/-- Answer with the program of lexemes, in canonical source or JSON. -/
def answerProgram (request : Request) (lexemes : List (Lexeme Nat)) (notices : List Notice) :
    Response :=
  match parse lexemes with
  | .error error => .failure notices ("Error: " ++ error.message)
  | .ok program =>
      { succeeded := true
        output := (if request.format = .json then toJson program else toSource program) ++ "\n"
        notices := notices ++
          [builtNotice program.length lexemes.length,
            parsedNotice program.length request.source] }

/-- Answer to a request on a text. A listing of lexemes needs no program. -/
def answerText (request : Request) (text : String) : Response :=
  match tokenize text with
  | .error error => .failure [] ("Error: " ++ error.message)
  | .ok lexemes =>
      let notices := [tokenizedNotice text.length lexemes.length]
      match request.format with
      | .lexemes => ⟨true, listing lexemes, notices⟩
      | .source | .json => request.answerProgram lexemes notices

/-- Answer to a request whose source is had, or cannot be had. -/
def answer (request : Request) (text : Except SourceFault String) : Response :=
  match text with
  | .error fault =>
      .failure [] ("Error reading " ++ request.source ++ ": " ++ fault.message)
  | .ok text => request.answerText text

end Request

/-- What a run can see besides its arguments: the standard input and the files. -/
structure Surroundings where
  input : List UInt8
  files : Files

/-- The bytes of a source: the standard input, or the file of that name. -/
def Surroundings.fetch (surroundings : Surroundings) (source : String) :
    Except SourceFault (List UInt8) :=
  if source = Request.standardInput then .ok surroundings.input
  else
    let path := PathName.ofString source
    (surroundings.files.read path).mapError fun fault => .file fault path

/-- How the bytes of a source become text. -/
def InputReading.at (reading : InputReading) (source : String) :
    List UInt8 → Except SourceFault String :=
  if source = Request.standardInput then reading else decodeSource

/-- A run of the command line under a reading of the standard input. -/
def runWith (reading : InputReading) (surroundings : Surroundings) (arguments : List String) :
    Response :=
  match Request.ofArguments? arguments with
  | none => .usage
  | some request =>
      request.answer (surroundings.fetch request.source >>= reading.at request.source)

/-- A run of the command line whose standard input is read like a file. -/
def run (surroundings : Surroundings) (arguments : List String) : Response :=
  runWith decodeSource surroundings arguments

end SexpReader.Command
