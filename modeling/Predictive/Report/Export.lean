import Predictive.Grammar.Reading
import Predictive.Report.Json

/-!
# Answers in JSON

A caller that exchanges texts gives a grammar text and gets a JSON text: the report of an analysis,
or the FIRST and FOLLOW sets of the grammar as it stands. A grammar that cannot be read or analysed
is answered by an object with the error message.
-/

namespace Predictive

namespace Export

def ofError (error : GrammarError) : Json :=
  .object [("error", .string error.message)]

def ofResult (result : Except GrammarError Json) : String :=
  match result with
  | .ok value => value.write
  | .error error => (ofError error).write

/-- The report of an analysis with the default configuration, but for the lexing. -/
def analysis (lexing : Lexing) (text : String) : String :=
  ofResult do
    let g ← Grammar.parse lexing text
    let analysis ← Analysis.run g { lexing }
    return analysis.report.json

def sets (text : String) : String :=
  ofResult do
    let g ← Grammar.parse .compact text
    let first ← g.firstSets
    let follow ← g.followSets first.value
    return SetsRow.jsonTable (g.setsView first.value follow.value)

end Export

end Predictive
