import Predictive.Command.Run

/-!
# A host in memory

The command can be run without a system around it: on files that are given by their names and
bytes, with a given input, and with everything it prints kept apart.

A name leads from directory to directory, one part after another: from the root if it starts with
a slash, and else from the directory that holds the files. A directory is there when a file in it
is; some stand by themselves, with the devices in one of them. Only directories can be gone
through, also by the parts `.` and `..`.
-/

namespace Predictive.Command

/-- A place in the tree of files. The first part of a place below the root is `/`; one above the
directory of the files has the part `..` for every step up. -/
abbrev Place := List String

namespace Place

def up (place : Place) : Place :=
  if place = ["/"] then place
  else if place.all (· == "..") then place ++ [".."]
  else place.dropLast

def step (place : Place) (part : String) : Place :=
  if part = "." then place else if part = ".." then place.up else place ++ [part]

/-- Where a name starts. -/
def start (name : String) : Place :=
  if name.toList.head? = some '/' then ["/"] else []

/-- The parts of a name between its slashes. -/
def parts (name : String) : List String :=
  ((name.toList.splitOn '/').filter fun part => !part.isEmpty).map String.ofList

/-- The place that a name leads to if it can be gone through. -/
def ofName (name : String) : Place :=
  (parts name).foldl step (start name)

end Place

/-- A file that is no stored text. -/
inductive Device
  | null
  | full
  | input
  | printed
  | errors

structure Memory where
  files : List (Place × ByteArray)
  input : ByteArray
  printed : String := ""
  errors : String := ""

namespace Memory

inductive Entry
  | directory
  | file (bytes : ByteArray)
  | device (device : Device)

def standingDirectories : List Place :=
  [["/"], ["/", "dev"], ["/", "etc"], ["/", "home"], ["/", "tmp"], ["/", "usr"], ["/", "var"]]

def devices : List (Place × Device) :=
  [(["/", "dev", "null"], .null), (["/", "dev", "full"], .full), (["/", "dev", "stdin"], .input),
    (["/", "dev", "stdout"], .printed), (["/", "dev", "stderr"], .errors)]

/-- What is at a place. -/
def entry? (memory : Memory) (place : Place) : Option Entry :=
  match memory.files.lookup place, devices.lookup place with
  | some bytes, _ => some (.file bytes)
  | none, some device => some (.device device)
  | none, none =>
    if place.all (· == "..") || standingDirectories.contains place ||
        memory.files.any fun f => place.isPrefixOf f.1 then some .directory
    else none

def demandDirectory (memory : Memory) (place : Place) : Except FileFault Unit :=
  match memory.entry? place with
  | some .directory => .ok ()
  | some _ => .error .notDirectory
  | none => .error .notFound

/-- The place that parts lead to. A part cannot be looked up if it has more than 255 bytes. -/
def walk (memory : Memory) (place : Place) : List String → Except FileFault Place
  | [] => .ok place
  | part :: rest => do
    memory.demandDirectory place
    if part.utf8ByteSize > 255 then throw .nameTooLong
    memory.walk (place.step part) rest

def endsInSlash (name : String) : Bool :=
  name.toList.getLast? == some '/'

/-- A name has to have a byte, and less than 4096. -/
def checkName (name : String) : Except FileFault Unit :=
  if name.isEmpty then .error .notFound
  else if name.utf8ByteSize ≥ 4096 then .error .nameTooLong
  else .ok ()

/-- Reads a file. What has been read of the input is gone. -/
def read (memory : Memory) (name : String) : Except FileFault (ByteArray × Memory) := do
  checkName name
  match memory.entry? (← memory.walk (Place.start name) (Place.parts name)) with
  | none => throw .notFound
  | some .directory => throw .isDirectory
  | some (.file bytes) => if endsInSlash name then throw .notDirectory else return (bytes, memory)
  | some (.device device) =>
    if endsInSlash name then throw .notDirectory
    match device with
    | .input => return (memory.input, { memory with input := .empty })
    | _ => return (.empty, memory)

/-- The bytes of a file. -/
def contents (memory : Memory) (name : String) : Except FileFault ByteArray := do
  return (← memory.read name).1

def writeDevice (memory : Memory) (text : String) : Device → Except FileFault Memory
  | .null | .input => .ok memory
  | .full => if text.isEmpty then .ok memory else .error .noSpace
  | .printed => .ok { memory with printed := memory.printed ++ text }
  | .errors => .ok { memory with errors := memory.errors ++ text }

/-- Writes a file. A name that can only be that of a directory is refused without a look at what
is there. -/
def store (memory : Memory) (name text : String) : Except FileFault Memory := do
  checkName name
  let parts := Place.parts name
  let parent ← memory.walk (Place.start name) parts.dropLast
  memory.demandDirectory parent
  let last := parts.getLastD "."
  if endsInSlash name || last == "." || last == ".." then throw .isDirectory
  let place ← memory.walk parent [last]
  match memory.entry? place with
  | some .directory => throw .isDirectory
  | some (.device device) => memory.writeDevice text device
  | some (.file _) =>
    return { memory with
      files := memory.files.map fun f => if f.1 = place then (place, text.toUTF8) else f }
  | none => return { memory with files := memory.files ++ [(place, text.toUTF8)] }

instance : Host (StateM Memory) where
  readFile name := do
    match (← get).read name with
    | .ok (bytes, memory) =>
      set memory
      return .ok bytes
    | .error fault => return .error fault
  readInput := modifyGet fun memory => (.ok memory.input, { memory with input := .empty })
  writeFile name text := do
    match (← get).store name text with
    | .ok memory =>
      set memory
      return .ok ()
    | .error fault => return .error fault
  print text := modify fun memory => { memory with printed := memory.printed ++ text }
  printError text := modify fun memory => { memory with errors := memory.errors ++ text }

end Memory

end Predictive.Command
