import Predictive.Command.Host
import Predictive.Command.Options
import Predictive.Config.Reading
import Predictive.Log.Filter
import Predictive.Report.Json
import Predictive.Report.Latex
import Predictive.Report.Plain
import Predictive.Store.Reading

/-!
# The command

The command reads a configuration and a grammar, analyses the grammar and prints a report of the
analysis; it can also write the report to a file. Parts of the grammar text that cannot be
understood are passed over with a warning.

A run ends with an exit code: 0, or 1 after a failure, or 2 when the arguments make no sense.
-/

namespace Predictive.Command

inductive Failure
  | readConfig (path : String) (fault : ReadFault)
  | config (path : String) (error : Json.ReadError)
  | readGrammar (path? : Option String) (fault : ReadFault)
  | grammar (error : GrammarError)
  | writeReport (path : String) (fault : FileFault)

namespace Failure

/-- What could not be done. -/
def message : Failure → String
  | readConfig path _ => "failed to read config " ++ path
  | config path _ => "invalid config " ++ path
  | readGrammar (some path) _ => "failed to read grammar " ++ path
  | readGrammar none _ => "failed to read grammar from stdin"
  | grammar error => error.message
  | writeReport path _ => "failed to write " ++ path

/-- The reason, where the message does not give it. -/
def cause? : Failure → Option String
  | readConfig _ fault => some fault.message
  | config _ error => some error.message
  | readGrammar _ fault => some fault.message
  | grammar _ => none
  | writeReport _ fault => some fault.message

def report (failure : Failure) : String :=
  "Error: " ++ failure.message ++
    (match failure.cause? with
      | none => ""
      | some cause => "\n\nCaused by:\n    " ++ Log.Event.indented cause) ++
    "\n"

end Failure

def versionText : String := "ll1-grammar-helper 0.1.0\n"

def usageText : String :=
  "Usage: ll1-grammar-helper [OPTIONS] [GRAMMAR]\n"

def formatted (format : Format) (report : Report) : String :=
  match format with
  | .plain => report.plain
  | .latex => report.latex
  | .json => report.json.write

section

variable {m : Type → Type} [Monad m] [Host m]

def showEvents (filter : Log.Filter) (events : List Log.Event) : m Unit :=
  (events.filter filter.shows).forM fun e => Host.printError e.record

def readConfig (options : Options) : ExceptT Failure m Config := do
  let config ← match options.config? with
    | none => pure {}
    | some path => do
      let text ← match textOf (← Host.readFile path) with
        | .error fault => throw (.readConfig path fault)
        | .ok text => pure text
      match Config.ofJson text with
      | .error error => throw (.config path error)
      | .ok config => pure config
  return if options.words then { config with lexing := .words } else config

def readGrammar (options : Options) : ExceptT Failure m String := do
  let bytes ← match options.grammar? with
    | some path => Host.readFile path
    | none => Host.readInput
  match textOf bytes with
  | .error fault => throw (.readGrammar options.grammar? fault)
  | .ok text => return text

def makeReport (filter : Log.Filter) (options : Options) : ExceptT Failure m Unit := do
  let config ← readConfig options
  let text ← readGrammar options
  showEvents filter (Log.ofReading config.lexing text)
  let (store, errors) := GrammarStore.load config.lexing text
  let g := store.view
  showEvents filter (errors.map Log.ofLineError)
  showEvents filter (Log.ofAnalysis g config)
  let analysis ← match Analysis.run g config with
    | .error error => throw (.grammar error)
    | .ok analysis => pure analysis
  showEvents filter (analysis.table.conflicts.map Log.ofConflict)
  let output := formatted (options.format?.getD .plain) analysis.report ++ "\n"
  Host.print output
  match options.output? with
  | none => return ()
  | some path =>
    match ← Host.writeFile path output with
    | .error fault => throw (.writeReport path fault)
    | .ok () => showEvents filter [⟨.info, .command, "Report written to " ++ path⟩]

/-- Runs the command. `log` is the text of the log filter. -/
def run (log : String) (arguments : List String) : m UInt32 := do
  match Options.read {} arguments with
  | .error error =>
    Host.printError (error.message ++ "\n")
    return 2
  | .ok .version =>
    Host.print versionText
    return 0
  | .ok .help =>
    Host.print usageText
    return 0
  | .ok (.report options) =>
    let (filter, warnings) := Log.Filter.ofString log
    warnings.forM fun warning => Host.printError (warning ++ "\n")
    match ← (makeReport filter options).run with
    | .ok () => return 0
    | .error failure =>
      Host.printError failure.report
      return 1

end

end Predictive.Command
