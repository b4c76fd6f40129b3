/-!
# Command-line options

An option has a long name, and some have a short one. The value of an option is the next argument,
or it follows the name: behind `=`, and behind a short name also without it. `--` ends the options.
What is no option is the name of the grammar file; a single `-` is no option.
-/

namespace Predictive.Command

inductive Format
  | plain
  | latex
  | json
deriving DecidableEq

structure Options where
  grammar? : Option String := none
  format? : Option Format := none
  output? : Option String := none
  config? : Option String := none
  words : Bool := false

inductive ValueOption
  | format
  | output
  | config
deriving DecidableEq

/-- Why the arguments cannot be understood. -/
inductive UsageError
  | unknownOption (argument : String)
  | missingValue (option : String)
  | invalidFormat (value : String)
  | repeated (option : String)
  | unexpectedValue (option : String)
  | extraArgument (argument : String)

namespace UsageError

def message : UsageError → String
  | unknownOption argument => "error: unexpected argument '" ++ argument ++ "' found"
  | missingValue option => "error: a value is required for '" ++ option ++ "' but none was supplied"
  | invalidFormat value => "error: invalid value '" ++ value ++ "' for '--format <FORMAT>'"
  | repeated option => "error: the argument '" ++ option ++ "' cannot be used multiple times"
  | unexpectedValue option => "error: unexpected value for '" ++ option ++ "'"
  | extraArgument argument => "error: unexpected argument '" ++ argument ++ "' found"

end UsageError

inductive Request
  | version
  | help
  | report (options : Options)

namespace ValueOption

def longName : ValueOption → String
  | format => "--format"
  | output => "--output"
  | config => "--config"

def ofLong? (name : List Char) : Option ValueOption :=
  [format, output, config].find? fun o => o.longName.toList == name

def ofShort? : Char → Option ValueOption
  | 'f' => some format
  | 'o' => some output
  | 'c' => some config
  | _ => none

end ValueOption

namespace Options

def formatNames : List (String × Format) :=
  [("plain", .plain), ("latex", .latex), ("json", .json)]

/-- Gives an option its value. No option is given twice, and no file has an empty name. -/
def set (options : Options) (o : ValueOption) (value : String) : Except UsageError Options :=
  match o with
  | .format =>
    if options.format?.isSome then .error (.repeated o.longName)
    else
      match formatNames.lookup value with
      | some format => .ok { options with format? := some format }
      | none => .error (.invalidFormat value)
  | .output =>
    if options.output?.isSome then .error (.repeated o.longName)
    else if value.isEmpty then .error (.missingValue o.longName)
    else .ok { options with output? := some value }
  | .config =>
    if options.config?.isSome then .error (.repeated o.longName)
    else if value.isEmpty then .error (.missingValue o.longName)
    else .ok { options with config? := some value }

def setGrammar (options : Options) (name : String) : Except UsageError Options :=
  if options.grammar?.isSome then .error (.extraArgument name)
  else if name.isEmpty then .error (.missingValue "[GRAMMAR]")
  else .ok { options with grammar? := some name }

def setWords (options : Options) : Except UsageError Options :=
  if options.words then .error (.repeated "--words")
  else .ok { options with words := true }

/-- Takes in arguments behind `--`. -/
def readFiles (options : Options) : List String → Except UsageError Request
  | [] => .ok (.report options)
  | name :: rest => do
    let options ← options.setGrammar name
    readFiles options rest

/-- An argument by its form. -/
inductive Argument
  | endOfOptions
  | words
  | version
  | help
  /-- An option with the value that is part of the argument, if there is one. -/
  | value (option : ValueOption) (attached : Option (List Char))
  | file
  | faulty (error : UsageError)

def attachedToShort : List Char → Option (List Char)
  | [] => none
  | '=' :: value => some value
  | value => some value

/-- The name of a long option and the value behind `=`. -/
def splitLong (text : List Char) : List Char × Option (List Char) :=
  let name := text.takeWhile (· != '=')
  match text.dropWhile (· != '=') with
  | [] => (name, none)
  | _ :: value => (name, some value)

def classify (argument : String) : Argument :=
  match argument.toList with
  | ['-'] => .file
  | ['-', '-'] => .endOfOptions
  | '-' :: '-' :: rest =>
    let (name, value?) := splitLong ('-' :: '-' :: rest)
    match ValueOption.ofLong? name with
    | some o => .value o value?
    | none =>
      if name = "--words".toList then
        if value?.isSome then .faulty (.unexpectedValue "--words") else .words
      else if name = "--version".toList then
        if value?.isSome then .faulty (.unexpectedValue "--version") else .version
      else if name = "--help".toList then
        if value?.isSome then .faulty (.unexpectedValue "--help") else .help
      else .faulty (.unknownOption argument)
  | '-' :: 'V' :: _ => .version
  | '-' :: 'h' :: _ => .help
  | '-' :: c :: rest =>
    match ValueOption.ofShort? c with
    | some o => .value o (attachedToShort rest)
    | none => .faulty (.unknownOption argument)
  | _ => .file

/-- Whether an argument can be the value of the option before it. -/
def isValue (argument : String) : Bool :=
  match argument.toList with
  | '-' :: _ :: _ => false
  | _ => true

def read (options : Options) : List String → Except UsageError Request
  | [] => .ok (.report options)
  | argument :: rest =>
    match classify argument with
    | .endOfOptions => readFiles options rest
    | .version => .ok .version
    | .help => .ok .help
    | .words => do
      let options ← options.setWords
      read options rest
    | .file => do
      let options ← options.setGrammar argument
      read options rest
    | .value o (some value) => do
      let options ← options.set o (String.ofList value)
      read options rest
    | .value o none =>
      match rest with
      | [] => .error (.missingValue o.longName)
      | value :: rest =>
        if isValue value then do
          let options ← options.set o value
          read options rest
        else .error (.missingValue o.longName)
    | .faulty error => .error error

end Options

end Predictive.Command
