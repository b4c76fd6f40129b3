import Predictive.Report.Columns
import Predictive.Report.View

/-!
# Reports as plain text
-/

namespace Predictive

namespace ProductionView

/-- The left side, at the right of a field of some width, and the first arrow. -/
def plainHead (view : ProductionView) (width : Nat) : String :=
  Columns.padLeft width view.left ++ " -> "

/-- The production on one line. Without alternatives it is the empty text. -/
def plain (view : ProductionView) (width : Nat) : String :=
  if view.rights.isEmpty then ""
  else view.plainHead width ++ " | ".intercalate (view.rights.map (" ".intercalate ·))

/-- The production with every further alternative on a line of its own. -/
def plainLines (view : ProductionView) (width : Nat) : String :=
  if view.rights.isEmpty then ""
  else
    view.plainHead width ++
      ("\n" ++ Columns.padLeft width "" ++ "  | ").intercalate
        (view.rights.map (" ".intercalate ·))

end ProductionView

namespace GrammarView

def plain (view : GrammarView) : String :=
  let width := (view.productions.map fun p => p.left.length).foldr max 0
  "\n".intercalate (view.productions.map (·.plain width))

end GrammarView

namespace SetsRow

def plainTable (rows : List SetsRow) : String :=
  Columns.align <|
    ["Symbol", "Nullable", "First", "Follow"] ::
      rows.map fun row =>
        [row.name, if row.nullable then "true" else "false", ", ".intercalate row.first,
          ", ".intercalate row.follow]

/-- A set by name, with its members between braces. -/
def plainSet (title name : String) (members : List String) : String :=
  title ++ "(" ++ name ++ ") = \x7b " ++ ", ".intercalate members ++ " \x7d"

def plainFirst (rows : List SetsRow) : String :=
  "\n".intercalate (rows.map fun row => plainSet "FIRST" row.name row.first)

def plainFollow (rows : List SetsRow) : String :=
  "\n".intercalate (rows.map fun row => plainSet "FOLLOW" row.name row.follow)

end SetsRow

namespace ConflictView

def plain (view : ConflictView) : String :=
  "conflict at [" ++ view.nonTerminal ++ ", " ++ view.terminal ++ "]: " ++
    ", ".intercalate (view.alternatives.map fun a =>
      view.nonTerminal ++ " -> " ++ " ".intercalate a)

end ConflictView

namespace TableRow

/-- The texts of a row: its left side, and every cell written as a production. -/
def plainTexts (row : TableRow) : List String :=
  row.left :: row.cells.map (·.plain row.left.length)

end TableRow

namespace TableView

/-- The table in columns, with a header of the symbols that the columns belong to. -/
def plain (view : TableView) : String :=
  Columns.align (("" :: view.columns) :: view.rows.map TableRow.plainTexts)

def plainConflicts (view : TableView) : String :=
  "\n".intercalate (view.conflicts.map ConflictView.plain)

end TableView

namespace Report

/-- The sections of a report with their titles. The conflicts are shown only when there are some. -/
def plainSections (report : Report) : List (String × String) :=
  [("Original Grammar", report.given.plain),
    ("Grammar after Left Factoring", report.factored.plain),
    ("Grammar after Left Recursion Removal", report.withoutLeftRecursion.plain),
    ("FIRST Sets", SetsRow.plainFirst report.sets),
    ("FOLLOW Sets", SetsRow.plainFollow report.sets),
    ("LL(1) Parsing Table", report.table.plain)] ++
  if report.table.conflicts.isEmpty then [] else [("Conflicts", report.table.plainConflicts)]

def plain (report : Report) : String :=
  "\n\n".intercalate (report.plainSections.map fun s => s.1 ++ ":\n" ++ s.2)

end Report

end Predictive
