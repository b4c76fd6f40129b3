/-!
# Hosts of the command

The command reads files and its input, writes files, and prints. `Host` is what it asks of the
system that it runs in. A system may refuse to open or to write a file, and what a file holds may
be no text.
-/

namespace Predictive.Command

/-- Why a system refuses a file. -/
inductive FileFault
  | notFound
  | permissionDenied
  | notDirectory
  | isDirectory
  | noSpace
  | nameTooLong
  | other (message : String)

namespace FileFault

def message : FileFault → String
  | notFound => "No such file or directory (os error 2)"
  | permissionDenied => "Permission denied (os error 13)"
  | notDirectory => "Not a directory (os error 20)"
  | isDirectory => "Is a directory (os error 21)"
  | noSpace => "No space left on device (os error 28)"
  | nameTooLong => "File name too long (os error 36)"
  | other message => message

end FileFault

/-- Why a file cannot be read as a text. -/
inductive ReadFault
  | file (fault : FileFault)
  | notUtf8

namespace ReadFault

def message : ReadFault → String
  | file fault => fault.message
  | notUtf8 => "stream did not contain valid UTF-8"

end ReadFault

/-- A system that a command runs in. -/
class Host (m : Type → Type) where
  readFile : String → m (Except FileFault ByteArray)
  readInput : m (Except FileFault ByteArray)
  writeFile : String → String → m (Except FileFault Unit)
  print : String → m Unit
  printError : String → m Unit

/-- A computation that can fail runs in the system below it. -/
instance {m : Type → Type} {ε : Type} [Monad m] [Host m] : Host (ExceptT ε m) where
  readFile name := ExceptT.lift (Host.readFile name)
  readInput := ExceptT.lift Host.readInput
  writeFile name text := ExceptT.lift (Host.writeFile name text)
  print text := ExceptT.lift (Host.print text)
  printError text := ExceptT.lift (Host.printError text)

/-- The text that bytes encode. -/
def textOf (bytes : Except FileFault ByteArray) : Except ReadFault String :=
  match bytes with
  | .error fault => .error (.file fault)
  | .ok bytes =>
    match String.fromUTF8? bytes with
    | some text => .ok text
    | none => .error .notUtf8

end Predictive.Command
