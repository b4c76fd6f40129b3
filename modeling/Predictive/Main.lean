import Predictive.Command.Run

/-!
# The command line program

The command on the system that the program runs in. The variable `LL1_LOG` holds the log filter.
-/

namespace Predictive.Command

/-- Why the system refused a file. -/
def faultOf (error : IO.Error) : FileFault :=
  match error with
  | .noFileOrDirectory .. => .notFound
  | .permissionDenied .. => .permissionDenied
  | .inappropriateType _ 20 _ => .notDirectory
  | .inappropriateType _ 21 _ => .isDirectory
  | .resourceExhausted _ 28 _ => .noSpace
  | .invalidArgument _ 36 _ => .nameTooLong
  | other => .other other.toString

/-- An action on the system, with the reason when the system refuses it. -/
def attempt {α : Type} (action : IO α) : IO (Except FileFault α) := do
  try
    return .ok (← action)
  catch error => return .error (faultOf error)

instance : Host IO where
  readFile name := attempt (IO.FS.readBinFile name)
  readInput := attempt do
    let stream ← IO.getStdin
    let mut bytes := ByteArray.empty
    let mut piece ← stream.read 65536
    while !piece.isEmpty do
      bytes := bytes ++ piece
      piece ← stream.read 65536
    return bytes
  writeFile name text := attempt (IO.FS.writeFile name text)
  print text := do
    let stream ← IO.getStdout
    stream.putStr text
    stream.flush
  printError text := do
    let stream ← IO.getStderr
    stream.putStr text
    stream.flush

end Predictive.Command

def main (arguments : List String) : IO UInt32 := do
  let log ← IO.getEnv "LL1_LOG"
  Predictive.Command.run (log.getD "") arguments
