import Lexis.Command

/-!
# The program

The program runs the command on the files of the machine.
-/

namespace Lexis

/-- Why the operating system refused to read a file. -/
def readFailure (error : IO.Error) : Command.ReadFailure :=
  match error with
  | .noFileOrDirectory .. => .notFound
  | .permissionDenied .. => .permissionDenied
  | .inappropriateType _ code _ => if code = 21 then .isDirectory else .notDirectory
  | _ => .other (toString error)

def readFile (path : String) : IO (Except Command.ReadFailure String) := do
  try
    let content ← IO.FS.readBinFile path
    match String.fromUTF8? content with
    | some text => return .ok text
    | none => return .error .invalidText
  catch error =>
    return .error (readFailure error)

end Lexis

/-- Runs the command, prints what it leaves behind, and exits with its code. -/
def main (arguments : List String) : IO UInt32 := do
  let outcome ← Lexis.Command.run Lexis.readFile arguments
  (← IO.getStdout).putStr outcome.stdout
  (← IO.getStderr).putStr outcome.stderr
  return outcome.code.toUInt32
