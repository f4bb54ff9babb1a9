import Highlighter.CommandLine.Process

/-!
# The program

Does what the process of its arguments says: looks at files, reads the source, and
writes.
-/

namespace Highlighter.Program

/-- What is at a path. -/
def lookAt (path : Text) : IO Entry := do
  try
    return .file (Text.ofBytes? (← IO.FS.readBinFile (String.ofList path)))
  catch e =>
    match e with
    | .inappropriateType _ code _ => return if code == 21 then .directory else .barred
    | .permissionDenied .. => return .forbidden
    | _ => return .missing

/-- The whole standard input. -/
def readInput : IO ByteArray := do
  let stdin ← IO.getStdin
  let mut bytes := ByteArray.empty
  let mut chunk ← stdin.read 65536
  while !chunk.isEmpty do
    bytes := bytes ++ chunk
    chunk ← stdin.read 65536
  return bytes

/-- The text of a source. A hyphen stands for the standard input. -/
def readSource (path : Text) : IO (Except ReadError Text) := do
  if path == ['-'] then return decoded (Text.ofBytes? (← readInput))
  else return (← lookAt path).read

/-- Does what a process says, and gives the number that it ends with. -/
def perform : CommandLine.Process → IO UInt32
  | .exit code => return code.toUInt32
  | .look path next => do perform (next (← lookAt path))
  | .source path next => do perform (next (← readSource path))
  | .print t next => do
    IO.print (String.ofList t)
    perform next
  | .report t next => do
    IO.eprint (String.ofList t)
    perform next

end Highlighter.Program

open Highlighter Program

/-- Runs the program. -/
def main (arguments : List String) : IO UInt32 :=
  perform (CommandLine.process .standard (arguments.map String.toList))
