/-
# Processes

A run of the command line as it happens. A process knows its threshold from the start. It
writes to its standard output as it goes, and every notice is shown or dropped at the moment
when it arises.
-/

import SexpReader.Command.Run

namespace SexpReader.Command

/-- What a process has written so far: its standard output, and the notices that were shown
on its standard error. -/
structure Console where
  output : String
  shown : List Notice
  deriving DecidableEq, Repr

/-- A console on which nothing is written. -/
def Console.empty : Console := ⟨"", []⟩

/-- A computation that can look at the threshold and write to the console. -/
abbrev Process (α : Type) := ReaderT Threshold (StateM Console) α

namespace Process

/-- Write to the standard output. -/
def write (text : String) : Process Unit :=
  modify fun console => { console with output := console.output ++ text }

/-- Show a notice, if the threshold lets it through. -/
def notify (notice : Notice) : Process Unit := do
  if notice.isShown (← readThe Threshold) then
    modify fun console => { console with shown := console.shown ++ [notice] }

/-- Tell of a failure and end with its status. -/
def fail (notice : Notice) : Process Nat := do
  notify notice
  return 1

end Process

namespace Request

open Process

/-- Write the program of lexemes, in canonical source or JSON. -/
def writeProgram (request : Request) (lexemes : List (Lexeme Nat)) : Process Nat := do
  match parse lexemes with
  | .error error => fail (.message .error ("Error: " ++ error.message))
  | .ok program =>
      notify (builtNotice program.length lexemes.length)
      notify (parsedNotice program.length request.source)
      write ((if request.format = .json then toJson program else toSource program) ++ "\n")
      return 0

/-- Serve a request whose source is had, or cannot be had. A listing is written line by
line. -/
def serve (request : Request) (text : Except SourceFault String) : Process Nat := do
  match text with
  | .error fault =>
      fail (.message .error ("Error reading " ++ request.source ++ ": " ++ fault.message))
  | .ok text =>
      match tokenize text with
      | .error error => fail (.message .error ("Error: " ++ error.message))
      | .ok lexemes =>
          notify (tokenizedNotice text.length lexemes.length)
          match request.format with
          | .lexemes =>
              lexemes.forM fun lexeme => write (listingLine lexeme)
              return 0
          | .source | .json => request.writeProgram lexemes

end Request

/-- What a process leaves behind: its exit status and what it has written. -/
structure Transcript where
  status : Nat
  output : String
  shown : List Notice
  deriving DecidableEq, Repr

namespace Transcript

/-- The text on standard error, each notice on a line of its own. -/
def errorOutput (transcript : Transcript) : String :=
  String.join (transcript.shown.map fun notice => notice.text ++ "\n")

end Transcript

/-- Run a process under a threshold. -/
def Process.transcript (process : Process Nat) (threshold : Threshold) : Transcript :=
  let (status, console) := (process.run threshold).run Console.empty
  ⟨status, console.output, console.shown⟩

/-- The process of a command line under a reading of the standard input and a setting of the log
level. -/
def invokeWith (reading : InputReading) (surroundings : Surroundings) (setting : Option String)
    (arguments : List String) : Transcript :=
  let process : Process Nat :=
    match Request.ofArguments? arguments with
    | none => Process.fail .usage
    | some request =>
        request.serve (surroundings.fetch request.source >>= reading.at request.source)
  process.transcript (Threshold.ofSetting setting)

/-- The process of a command line whose standard input is read like a file. -/
def invoke (surroundings : Surroundings) (setting : Option String) (arguments : List String) :
    Transcript :=
  invokeWith decodeSource surroundings setting arguments

end SexpReader.Command
