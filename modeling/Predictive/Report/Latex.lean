import Predictive.Report.View

/-!
# Reports in LaTeX

Names are escaped before they enter a report, so that no character of a name acts as a command, a
brace or a column separator. A hyphen before another hyphen is closed by an empty group, which
keeps the two from being set as a dash.

The printers take the escaping of a text as an argument. `Latex.Escapes` is what is known of it, and
`Latex.escape` is the one that the reports are printed with.
-/

namespace Predictive

namespace Latex

/-- The written form of a character that LaTeX would act on. -/
def escapeChar (c : Char) : List Char :=
  if c = '&' ∨ c = '%' ∨ c = '$' ∨ c = '#' ∨ c = '_' ∨ c = '\x7b' ∨ c = '\x7d' then ['\\', c]
  else if c = '[' ∨ c = ']' then ['\x7b', c, '\x7d']
  else if c = '~' then "\\textasciitilde\x7b\x7d".toList
  else if c = '^' then "\\textasciicircum\x7b\x7d".toList
  else if c = '<' then "\\textless\x7b\x7d".toList
  else if c = '>' then "\\textgreater\x7b\x7d".toList
  else if c = '!' then "!\x7b\x7d".toList
  else if c = '\\' then "\\textbackslash\x7b\x7d".toList
  else [c]

def escapeChars : List Char → List Char
  | [] => []
  | '-' :: '-' :: rest => "-\x7b\x7d".toList ++ escapeChars ('-' :: rest)
  | c :: rest => escapeChar c ++ escapeChars rest

/-- A text that LaTeX sets as it stands. -/
def escape (text : String) : String :=
  String.ofList (escapeChars text.toList)

/-- A text is escaped character by character, and nothing else happens to it. -/
def Escapes (escape : String → String) : Prop :=
  ∀ text, (escape text).toList = escapeChars text.toList

theorem escapes_escape : Escapes escape := fun _ => String.toList_ofList

def braced (text : String) : String := "\x7b" ++ text ++ "\x7d"

/-- An upright text in a formula. -/
def upright (text : String) : String := "\\text" ++ braced text

end Latex

section Printers

variable (escape : String → String)

namespace ProductionView

def latexSymbol (terminals : List String) (name : String) : String :=
  if name = Symbol.epsilonName then "\\epsilon"
  else if terminals.contains name then Latex.upright (escape name)
  else escape name

/-- The production as a formula. With `columns` the arrow is a column of its own. -/
def latexWith (view : ProductionView) (columns : Bool) (terminals : List String) : String :=
  if view.rights.isEmpty then ""
  else
    escape view.left ++ (if columns then " & \\rightarrow & " else " \\rightarrow ") ++
      " \\mid ".intercalate
        (view.rights.map fun right => " \\ ".intercalate (right.map (latexSymbol escape terminals)))

end ProductionView

namespace GrammarView

def latexWith (view : GrammarView) : String :=
  "\\\\\n".intercalate <|
    "\\[\\begin\x7barray\x7d\x7bcll\x7d" ::
      view.productions.map (·.latexWith escape true view.terminals) ++ ["\\end\x7barray\x7d\\]"]

end GrammarView

namespace SetsRow

def latexMembers (names : List String) : String :=
  "\\ ".intercalate <| names.map fun name =>
    if name = Symbol.epsilonName then "$\\epsilon$" else escape name

def latexWith (row : SetsRow) : String :=
  " & ".intercalate
    [escape row.name, if row.nullable then "true" else "false", latexMembers escape row.first,
      latexMembers escape row.follow]

/-- The nullable symbols, FIRST and FOLLOW as a table. -/
def latexTableWith (rows : List SetsRow) : String :=
  "\\begin\x7btabular\x7d\x7bc|c|c|c\x7d\n" ++
    "Symbol & Nullable & First & Follow\\\\\\hline\n" ++
    "\\\\\n ".intercalate (rows.map (·.latexWith escape)) ++
    "\\\\\n\\end\x7btabular\x7d"

end SetsRow

namespace TableRow

/-- A cell as a formula, in red when alternatives compete for it. -/
def latexCell (terminals : List String) (cell : ProductionView) : String :=
  let formula := cell.latexWith escape false terminals
  if 1 < cell.rights.length then Latex.braced ("\\color" ++ Latex.braced "red" ++ formula)
  else formula

def latexWith (row : TableRow) (terminals : List String) : String :=
  " & ".intercalate (escape row.left :: row.cells.map (latexCell escape terminals))

end TableRow

namespace TableView

/-- The opening of the table, with one rule and one column for every symbol. -/
def latexOpening (view : TableView) : String :=
  "\\[\\begin\x7barray\x7d" ++
    Latex.braced ("c" ++ String.join (view.columns.map fun _ => "|l")) ++ "\n"

def latexWith (view : TableView) : String :=
  " & ".intercalate
      (view.latexOpening :: view.columns.map fun name => Latex.upright (escape name)) ++
    "\\\\\\hline\n" ++
    "\\\\\n".intercalate (view.rows.map (·.latexWith escape view.terminals)) ++
    "\n\\end\x7barray\x7d\\]"

end TableView

def Report.latexWith (report : Report) : String :=
  "\n\n".intercalate
    [report.given.latexWith escape, report.factored.latexWith escape,
      report.withoutLeftRecursion.latexWith escape, SetsRow.latexTableWith escape report.sets,
      report.table.latexWith escape]

end Printers

/-! ### The printers of the program -/

def ProductionView.latex (view : ProductionView) (columns : Bool) (terminals : List String) :
    String :=
  view.latexWith Latex.escape columns terminals

def GrammarView.latex (view : GrammarView) : String :=
  view.latexWith Latex.escape

def SetsRow.latexTable (rows : List SetsRow) : String :=
  latexTableWith Latex.escape rows

def TableView.latex (view : TableView) : String :=
  view.latexWith Latex.escape

def Report.latex (report : Report) : String :=
  report.latexWith Latex.escape

end Predictive
