/-
# The program

The command line as a program: it gets the bytes that a request names, runs the process that
serves the request, and writes out what that leaves behind. The log level comes from the
environment.
-/

import SexpReader.Command.Process

namespace SexpReader.Command

/-- All bytes that are left in a stream. -/
partial def readAll (stream : IO.FS.Stream) (bytes : ByteArray) : IO ByteArray := do
  let more ← stream.read 65536
  if more.isEmpty then return bytes else readAll stream (bytes ++ more)

/-- Whether an error code is the given one. Some system calls report their codes negated. -/
def isCode (code expected : UInt32) : Bool :=
  code == expected || code == 0 - expected

/-- The bytes of a file, or why there are none. Other failures are left to the caller. -/
def readFile (path : PathName) : IO (Except SourceFault (List UInt8)) := do
  try
    let bytes ← IO.FS.readBinFile path.toString
    return .ok bytes.data.toList
  catch
    | .noFileOrDirectory _ _ _ => return .error (.file .notFound path)
    | .inappropriateType name code details =>
        if isCode code 20 then return .error (.file .notDirectory path)
        else if isCode code 21 then return .error (.file .isDirectory path)
        else throw (.inappropriateType name code details)
    | .invalidArgument name code details =>
        if isCode code 36 then return .error (.file .nameTooLong path)
        else throw (.invalidArgument name code details)
    | other => throw other

/-- The bytes of the source that a request names. -/
def fetchSource (source : String) : IO (Except SourceFault (List UInt8)) := do
  if source = Request.standardInput then
    let bytes ← readAll (← IO.getStdin) ByteArray.empty
    return .ok bytes.data.toList
  else readFile (PathName.ofString source)

/-- The process of arguments, with the source fetched if the arguments are well-formed. -/
def prepare (arguments : List String) : IO (Process Nat) := do
  match Request.ofArguments? arguments with
  | none => return Process.fail .usage
  | some request =>
      let bytes ← fetchSource request.source
      return request.serve (bytes >>= decodeSource)

end SexpReader.Command

open SexpReader.Command in
/-- Serve the arguments, under the log level that the environment asks for. -/
def main (arguments : List String) : IO UInt32 := do
  let threshold := Threshold.ofSetting (← IO.getEnv "LOGLEVEL")
  let process ← prepare arguments
  let transcript := process.transcript threshold
  IO.print transcript.output
  IO.eprint transcript.errorOutput
  return transcript.status.toUInt32
