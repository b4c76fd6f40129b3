import Predictive.Json.Basic
import Predictive.Report.View

/-!
# Reports in JSON
-/

namespace Predictive

namespace ProductionView

def json (view : ProductionView) : Json :=
  .object [("left", .string view.left), ("rights", .array (view.rights.map Json.strings))]

end ProductionView

namespace GrammarView

def json (view : GrammarView) : Json :=
  .object [("productions", .array (view.productions.map ProductionView.json))]

end GrammarView

namespace SetsRow

def json (row : SetsRow) : Json :=
  .object [("name", .string row.name), ("nullable", .bool row.nullable),
    ("first", .strings row.first), ("follow", .strings row.follow)]

def jsonTable (rows : List SetsRow) : Json :=
  .object [("data", .array (rows.map json))]

end SetsRow

namespace TableRow

def json (row : TableRow) : Json :=
  .object [("left", .string row.left), ("cells", .array (row.cells.map ProductionView.json))]

end TableRow

namespace ConflictView

def json (view : ConflictView) : Json :=
  .object [("non_terminal", .string view.nonTerminal), ("terminal", .string view.terminal),
    ("alternatives", .array (view.alternatives.map Json.strings))]

end ConflictView

namespace TableView

def json (view : TableView) : Json :=
  .object [("terminals", .strings view.columns), ("rows", .array (view.rows.map TableRow.json)),
    ("conflicts", .array (view.conflicts.map ConflictView.json))]

end TableView

namespace Report

def json (report : Report) : Json :=
  .object [("original", report.given.json), ("factored", report.factored.json),
    ("without_left_recursion", report.withoutLeftRecursion.json),
    ("sets", SetsRow.jsonTable report.sets), ("table", report.table.json)]

end Report

end Predictive
