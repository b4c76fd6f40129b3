import Predictive.Proofs.Latex.Sign
import Predictive.Proofs.Report.View

/-!
# The rows of a LaTeX report

Whatever the names are, a report in LaTeX has the rows that it shows and the columns that it
declares: its braces belong together, and the separators in its rows are those that were written
between columns. For each of the printers there is one lemma, which says what rows it prints. All
that is used of the escaping is that it `Latex.Escapes`.
-/

namespace Predictive

open Grammar Latex

variable {escape : String → String}

namespace ProductionView

theorem contained_latexSymbol (h : Escapes escape) (terminals : List String) (name : String) :
    Contained 0 (latexSymbol escape terminals name).toList := by
  unfold latexSymbol
  split
  · decide
  split
  · exact (h.contained name).upright
  · exact h.contained name

theorem contained_latexWith (h : Escapes escape) (view : ProductionView) (columns : Bool)
    (terminals : List String) :
    Contained (if view.rights.isEmpty ∨ columns = false then 0 else 2)
      (view.latexWith escape columns terminals).toList := by
  unfold latexWith
  by_cases hempty : view.rights.isEmpty = true
  · rw [if_pos hempty, if_pos (.inl hempty)]
    exact .nil
  · have hspace : Contained 0 " \\ ".toList := by decide
    have hbar : Contained 0 " \\mid ".toList := by decide
    have harrow : Contained (if view.rights.isEmpty ∨ columns = false then 0 else 2)
        (if columns then " & \\rightarrow & " else " \\rightarrow ").toList := by
      cases columns <;> simp only [hempty] <;> decide
    have hright : ∀ right ∈ view.rights,
        Contained 0 (" \\ ".intercalate (right.map (latexSymbol escape terminals))).toList :=
      fun right _ => hspace.intercalate <| List.forall_mem_map.mpr fun name _ =>
        contained_latexSymbol h terminals name
    have hrights := hbar.intercalate (List.forall_mem_map.mpr hright)
    have hline := ((h.contained view.left).append harrow).append hrights
    rw [if_neg hempty, String.toList_append, String.toList_append]
    rwa [Nat.zero_add, Nat.add_zero] at hline

end ProductionView

/-- The column separators in the row of a production. A production without alternatives has an empty
row. -/
def Production.separators (p : Production) : ℕ :=
  if p.alternatives.isEmpty then 0 else 2

namespace Grammar

theorem rows_latexWith (h : Escapes escape) (g : Grammar) :
    Rows (0 :: g.productions.map Production.separators ++ [0])
      (g.view.latexWith escape).toList := by
  have hseparator : "\\\\\n".toList = '\\' :: '\\' :: ['\n'] := by decide
  have hgap : Contained 0 ['\n'] := by decide
  have hopening : Contained 0 "\\[\\begin\x7barray\x7d\x7bcll\x7d".toList := by decide
  have hclosing : Contained 0 "\\end\x7barray\x7d\\]".toList := by decide
  have hproduction : ∀ p ∈ g.productions,
      Contained p.separators (p.view.latexWith escape true g.terminalNames).toList := by
    intro p _
    simpa [Production.separators, Production.view] using
      p.view.contained_latexWith h true g.terminalNames
  have hviews : g.view.productions.map (·.latexWith escape true g.terminalNames) =
      g.productions.map fun p => p.view.latexWith escape true g.terminalNames := List.map_map ..
  have hproductions := Contained.forall₂_map hproduction
  rw [← hviews] at hproductions
  exact .intercalate hseparator hgap (List.cons_ne_nil _ _)
    (.cons hopening (List.rel_append hproductions (.cons hclosing .nil)))

end Grammar

namespace SetsRow

theorem contained_latexMembers (h : Escapes escape) (names : List String) :
    Contained 0 (latexMembers escape names).toList := by
  have hspace : Contained 0 "\\ ".toList := by decide
  refine hspace.intercalate (List.forall_mem_map.mpr fun name _ => ?_)
  split
  · decide
  · exact h.contained name

theorem contained_latexWith (h : Escapes escape) (row : SetsRow) :
    Contained 3 (row.latexWith escape).toList := by
  have hseparator : Contained 1 " & ".toList := by decide
  have hcells : ∀ text ∈ [if row.nullable then "true" else "false", latexMembers escape row.first,
      latexMembers escape row.follow], Contained 0 text.toList := by
    simp only [List.forall_mem_cons]
    refine ⟨?_, contained_latexMembers h row.first, contained_latexMembers h row.follow, by simp⟩
    split <;> decide
  exact hseparator.intercalate_cons (h.contained row.name) hcells

theorem rows_latexTableWith (h : Escapes escape) {rows : List SetsRow} (hne : rows ≠ []) :
    Rows (3 :: rows.map (fun _ => 3) ++ [0]) (latexTableWith escape rows).toList := by
  have hopening : Contained 0 "\\begin\x7btabular\x7d\x7bc|c|c|c\x7d\n".toList := by decide
  have hheader : Contained 3 "Symbol & Nullable & First & Follow".toList := by decide
  have hrule : Contained 0 "\\hline\n".toList := by decide
  have hseparator : "\\\\\n ".toList = '\\' :: '\\' :: ['\n', ' '] := by decide
  have hgap : Contained 0 ['\n', ' '] := by decide
  have hclosing : Contained 0 "\n\\end\x7btabular\x7d".toList := by decide
  have hrows := Contained.forall₂_map fun row (_ : row ∈ rows) => row.contained_latexWith h
  have hbody :=
    (Rows.intercalate hseparator hgap (by simpa using hne) hrows).concat (.last hclosing)
  have hheaderLine : "Symbol & Nullable & First & Follow\\\\\\hline\n".toList =
      "Symbol & Nullable & First & Follow".toList ++ '\\' :: '\\' :: "\\hline\n".toList := by
    decide
  have hlastLine : "\\\\\n\\end\x7btabular\x7d".toList =
      '\\' :: '\\' :: "\n\\end\x7btabular\x7d".toList := by decide
  unfold latexTableWith
  simp only [String.toList_append, hheaderLine, hlastLine, List.append_assoc, List.cons_append]
  exact .contained_append hopening (.cons hheader (.contained_append hrule hbody))

end SetsRow

namespace TableRow

theorem contained_latexCell (h : Escapes escape) (terminals : List String)
    (cell : ProductionView) : Contained 0 (latexCell escape terminals cell).toList := by
  have hformula : Contained 0 (cell.latexWith escape false terminals).toList := by
    simpa using cell.contained_latexWith h false terminals
  unfold latexCell
  split
  · have hcolor : Contained 0 ("\\color" ++ braced "red").toList := by decide
    refine Contained.braced ?_
    rw [String.toList_append]
    exact hcolor.append hformula
  · exact hformula

theorem contained_latexWith (h : Escapes escape) (row : TableRow) (terminals : List String) :
    Contained row.cells.length (row.latexWith escape terminals).toList := by
  have hseparator : Contained 1 " & ".toList := by decide
  have hrow := hseparator.intercalate_cons (h.contained row.left) <|
    List.forall_mem_map.mpr fun cell (_ : cell ∈ row.cells) => contained_latexCell h terminals cell
  rwa [List.length_map, Nat.mul_one] at hrow

end TableRow

namespace TableView

variable {view : TableView}

theorem contained_latexOpening (view : TableView) : Contained 0 view.latexOpening.toList := by
  have hcommand : Contained 0 "\\[\\begin\x7barray\x7d".toList := by decide
  have hfirst : Contained 0 "c".toList := by decide
  have hcolumn : Contained 0 "|l".toList := by decide
  have hend : Contained 0 "\n".toList := by decide
  have hcolumns : Contained 0 (String.join (view.columns.map fun _ => "|l")).toList := by
    induction view.columns with
    | nil => exact .nil
    | cons name names ih =>
        rw [List.map_cons, String.join_cons, String.toList_append]
        exact hcolumn.append ih
  have hspec : Contained 0 ("c" ++ String.join (view.columns.map fun _ => "|l")).toList := by
    rw [String.toList_append]
    exact hfirst.append hcolumns
  unfold latexOpening
  rw [String.toList_append, String.toList_append]
  exact (hcommand.append hspec.braced).append hend

theorem rows_latexWith (h : Escapes escape) (hne : view.rows ≠ []) :
    Rows (view.columns.length :: view.rows.map fun row => row.cells.length)
      (view.latexWith escape).toList := by
  have hcolumn : Contained 1 " & ".toList := by decide
  have hrule : Contained 0 "\\hline\n".toList := by decide
  have hseparator : "\\\\\n".toList = '\\' :: '\\' :: ['\n'] := by decide
  have hgap : Contained 0 ['\n'] := by decide
  have hclosing : Contained 0 "\n\\end\x7barray\x7d\\]".toList := by decide
  have hheader := hcolumn.intercalate_cons view.contained_latexOpening <|
    List.forall_mem_map.mpr fun name (_ : name ∈ view.columns) => (h.contained name).upright
  rw [List.length_map, Nat.mul_one] at hheader
  have hrows := Contained.forall₂_map fun row (_ : row ∈ view.rows) =>
    row.contained_latexWith h view.terminals
  have hbody :=
    (Rows.intercalate hseparator hgap (by simpa using hne) hrows).append_contained hclosing
  have htable := Rows.cons hheader (.contained_append hrule hbody)
  simpa [latexWith] using htable

end TableView

namespace Analysis

theorem rows_latexWith (h : Escapes escape) {analysis : Analysis}
    (hproductions : analysis.withoutLeftRecursion.productions ≠ [])
    (hnonTerminals : analysis.table.nonTerminals ≠ []) :
    Rows (0 :: analysis.given.productions.map Production.separators ++
        0 :: analysis.factored.productions.map Production.separators ++
        0 :: analysis.withoutLeftRecursion.productions.map Production.separators ++
        List.replicate (analysis.withoutLeftRecursion.productions.length + 1) 3 ++
        List.replicate (analysis.table.nonTerminals.length + 1) analysis.table.terminals.length)
      (analysis.report.latexWith escape).toList := by
  have hgap : Contained 0 "\n\n".toList := by decide
  have hsets : analysis.report.sets ≠ [] := by simpa [report, setsView] using hproductions
  have htable : analysis.report.table.rows ≠ [] := by
    simpa [report, ParsingTable.view] using hnonTerminals
  have hsetsRows := SetsRow.rows_latexTableWith h hsets
  have htableRows := TableView.rows_latexWith h htable
  have hlength : analysis.report.sets.length =
      analysis.withoutLeftRecursion.productions.length := List.length_map ..
  have hwidth : analysis.report.table.columns.length = analysis.table.terminals.length :=
    List.length_map ..
  have hcells : (analysis.report.table.rows.map fun row => row.cells.length) =
      List.replicate analysis.table.nonTerminals.length analysis.table.terminals.length := by
    simp [report, ParsingTable.view, ParsingTable.length_cells, Function.comp_def]
  rw [List.map_const', hlength] at hsetsRows
  rw [hwidth, hcells] at htableRows
  have hrows := (analysis.given.rows_latexWith h).append <| .contained_append hgap <|
    (analysis.factored.rows_latexWith h).append <| .contained_append hgap <|
    (analysis.withoutLeftRecursion.rows_latexWith h).append <| .contained_append hgap <|
    hsetsRows.append <| .contained_append hgap htableRows
  have hlatex : (analysis.report.latexWith escape).toList =
      (analysis.given.view.latexWith escape).toList ++
      ("\n\n".toList ++ ((analysis.factored.view.latexWith escape).toList ++
      ("\n\n".toList ++ ((analysis.withoutLeftRecursion.view.latexWith escape).toList ++
      ("\n\n".toList ++ ((SetsRow.latexTableWith escape analysis.report.sets).toList ++
      ("\n\n".toList ++ (analysis.report.table.latexWith escape).toList))))))) := by
    simp [Report.latexWith, report]
  rw [hlatex]
  simpa only [List.append_assoc, List.replicate_succ, List.cons_append] using hrows

/-- Where names are escaped, the braces of a report in LaTeX belong together, in every row, and the
rows have their column separators, whatever the names in it are: two in the row of a production,
three in a row of the sets, and one for each terminal in a row of the table. -/
theorem report_latex_separates (hescape : Latex.Escapes escape) (lexing : Lexing) (text : String)
    (config : Config) {analysis : Analysis} (h : run (load lexing text).1 config = .ok analysis) :
    let signs := Latex.signs (analysis.report.latexWith escape).toList
    .dangling ∉ signs ∧ Balanced signs ∧
      (∀ row ∈ signs.splitOn .rowEnd, Balanced row) ∧
      (signs.splitOn .rowEnd).map (List.count .separator) =
        0 :: analysis.given.productions.map Production.separators ++
        0 :: analysis.factored.productions.map Production.separators ++
        0 :: analysis.withoutLeftRecursion.productions.map Production.separators ++
        List.replicate (analysis.withoutLeftRecursion.productions.length + 1) 3 ++
        List.replicate (analysis.table.nonTerminals.length + 1)
          analysis.table.terminals.length := by
  have hg : (load lexing text).1.Prepared := .load lexing text
  have hstages := stages_of_run h
  have hrows := rows_latexWith hescape (hstages.productions_ne_nil hg)
    (hstages.nonTerminals_ne_nil hg)
  exact hrows.cut

/-- Names of braces, ampersands and backslashes, and two alternatives that compete for a cell. -/
theorem report_latex_separates_commands :
    ∃ analysis, run (load .words "S -> & | \x7b \\ S | \x7b \x7d--").1 ⟨.words, 0, false⟩ =
        .ok analysis ∧
      let signs := Latex.signs analysis.report.latex.toList
      Balanced signs ∧ (signs.splitOn .rowEnd).map (List.count .separator) =
        [0, 2, 0, 2, 0, 2, 3, 3, 5, 5] := by
  have hrun : ((run (load .words "S -> & | \x7b \\ S | \x7b \x7d--").1
      ⟨.words, 0, false⟩).toOption.map fun analysis =>
        (analysis.given.productions.map Production.separators,
          analysis.factored.productions.map Production.separators,
          analysis.withoutLeftRecursion.productions.map Production.separators,
          analysis.table.nonTerminals.length, analysis.table.terminals.length)) =
      some ([2], [2], [2], 1, 5) := by
    decide +kernel
  obtain ⟨analysis, hanalysis, hshape⟩ := exists_eq_ok_of_map_toOption hrun
  simp only [Prod.mk.injEq] at hshape
  obtain ⟨hgiven, hfactored, hlast, hnonTerminals, hterminals⟩ := hshape
  have hproductions : analysis.withoutLeftRecursion.productions.length = 1 := by
    simpa using congrArg List.length hlast
  obtain ⟨-, hbalanced, -, hcounts⟩ := report_latex_separates escapes_escape _ _ _ hanalysis
  rw [hgiven, hfactored, hlast, hproductions, hnonTerminals, hterminals] at hcounts
  exact ⟨analysis, hanalysis, hbalanced, hcounts⟩

end Analysis

end Predictive
