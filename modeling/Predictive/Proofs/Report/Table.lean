import Predictive.Proofs.Report.Columns
import Predictive.Proofs.Report.Plain
import Predictive.Proofs.Report.View
import Predictive.Proofs.Table

/-!
# A printed parsing table can be read again

A row of the table is set in columns with its left side and the texts of its cells. The bars
between the alternatives of a cell look like those between columns, but the names in the first line
have no bars, and that line says how wide the columns are. A name is a word without bars, so behind
the arrow of a cell every alternative is found between bars, and its names between spaces.
-/

namespace Predictive

open Grammar ParsingTable

namespace Columns

theorem settable_empty : Settable "" :=
  ⟨by simp, by simp⟩

theorem settable_of_isWord {text : String} (h : Text.IsWord text.toList) : Settable text where
  noFeed hmem := absurd (h.not_blank _ hmem) (by decide)
  head c hc := by
    rintro rfl
    exact absurd (h.not_blank _ (List.mem_of_head? hc)) (by decide)

end Columns

namespace ParsingTable

def cellText (left : Symbol) (entries : List Entry) : List Char :=
  if entries.isEmpty then []
  else
    left.name.toList ++ [' ', '-', '>', ' '] ++
      [' ', '|', ' '].intercalate (entries.map fun e => Alternative.printed e.alternative)

/-- The names in the alternatives of a cell, read from its text and the name of its row. -/
def namesIn (left text : List Char) : List (List (List Char)) :=
  if text.isEmpty then []
  else ((text.drop (left.length + 4)).splitOn '|').map Text.words

def texts (table : ParsingTable) : List (List (List Char)) :=
  ([] :: table.terminals.map fun t => t.name.toList) ::
    table.nonTerminals.map fun left =>
      left.name.toList :: table.terminals.map fun t => cellText left (table.cell left t).entries

def cellProduction (left : Symbol) (entries : List Entry) : Production :=
  ⟨left, entries.map Entry.alternative⟩

variable {left : Symbol} {entries : List Entry}

theorem toList_plain_cellProduction :
    ((cellProduction left entries).view.plain left.name.length).toList = cellText left entries := by
  unfold cellText
  by_cases hne : entries = []
  · simp [hne, cellProduction, Production.view, ProductionView.plain]
  · have halternatives : (cellProduction left entries).alternatives ≠ [] := by
      simpa [cellProduction] using hne
    rw [Production.toList_plain halternatives, if_neg (by simpa using hne)]
    simp [cellProduction, Production.printedLeft, Production.printedRights, Function.comp_def]

theorem cellText_eq_nil_iff : cellText left entries = [] ↔ entries = [] := by
  simp [cellText]

/-- What is read behind the arrow are the alternatives, and nothing of the row. -/
theorem namesIn_cellText (h : entries ≠ [] → (cellProduction left entries).Printable) :
    namesIn left.name.toList (cellText left entries) =
      entries.map fun e => e.alternative.map fun s => s.name.toList := by
  by_cases hne : entries = []
  · simp [hne, cellText, namesIn]
  · have halternatives : (cellProduction left entries).alternatives ≠ [] := by
      simpa [cellProduction] using hne
    have hwords := (h hne).map_words_segments halternatives 0
    have htext : cellText left entries ≠ [] := mt cellText_eq_nil_iff.mp hne
    have hdrop : (cellText left entries).drop (left.name.toList.length + 4) =
        (cellProduction left entries).printedRights := by
      rw [cellText, if_neg (by simpa using hne), List.drop_left' (by simp)]
      simp [cellProduction, Production.printedRights, Function.comp_def]
    rw [Reading.segments, List.map_map] at hwords
    rw [namesIn, if_neg (by simpa using htext), hdrop]
    refine hwords.trans ?_
    rw [cellProduction, List.map_map]
    rfl

theorem settable_plain_cellProduction
    (h : entries ≠ [] → (cellProduction left entries).Printable) :
    Columns.Settable ((cellProduction left entries).view.plain left.name.length) := by
  by_cases hne : entries = []
  · have hplain : (cellProduction left entries).view.plain left.name.length = "" := by
      simp [hne, cellProduction, Production.view, ProductionView.plain]
    exact hplain ▸ Columns.settable_empty
  · have hword : Text.IsWord left.name.toList := (h hne).left.legible.isWord
    refine ⟨(h hne).notMem_line _ (by decide) (by decide), fun c hc => ?_⟩
    rw [toList_plain_cellProduction, cellText, if_neg (by simpa using hne), List.append_assoc,
      List.head?_append_of_ne_nil _ hword.ne_nil] at hc
    exact (Columns.settable_of_isWord hword).head c hc

theorem map_plainTexts (table : ParsingTable) (g : Grammar) :
    (table.view g).rows.map TableRow.plainTexts = table.nonTerminals.map fun left =>
      left.name :: table.terminals.map fun t =>
        (cellProduction left (table.cell left t).entries).view.plain left.name.length := by
  rw [view, List.map_map]
  refine List.map_congr_left fun left _ => ?_
  simp [TableRow.plainTexts, cells, cellProduction, Production.view, Function.comp_def]

/-- A table is read again when its names are words, those of the columns without bars, and its
cells can be printed like productions. -/
theorem shows_plain {table : ParsingTable} (g : Grammar)
    (hcolumn : ∀ t ∈ table.terminals, Text.IsWord t.name.toList ∧ '|' ∉ t.name.toList)
    (hrow : ∀ left ∈ table.nonTerminals, Text.IsWord left.name.toList)
    (hcell : ∀ left t, (table.cell left t).entries ≠ [] →
      (cellProduction left (table.cell left t).entries).Printable) :
    Columns.Shows (table.view g).plain.toList table.texts := by
  have hheader : ∀ text ∈ "" :: table.terminals.map Symbol.name,
      Columns.Settable text ∧ '|' ∉ text.toList := by
    rw [List.forall_mem_cons, List.forall_mem_map]
    refine ⟨⟨Columns.settable_empty, by simp⟩, fun t ht => ?_⟩
    exact (hcolumn t ht).imp_left Columns.settable_of_isWord
  have hrows : ∀ row ∈ (table.view g).rows.map TableRow.plainTexts,
      row.length = table.terminals.length + 1 ∧ ∀ text ∈ row, Columns.Settable text := by
    rw [map_plainTexts]
    refine List.forall_mem_map.mpr fun left hleft => ⟨by simp, ?_⟩
    rw [List.forall_mem_cons, List.forall_mem_map]
    exact ⟨Columns.settable_of_isWord (hrow left hleft), fun t _ =>
      settable_plain_cellProduction (hcell left t)⟩
  have hlength : ∀ row ∈ ("" :: table.terminals.map Symbol.name) ::
      (table.view g).rows.map TableRow.plainTexts,
      row.length = ("" :: table.terminals.map Symbol.name).length := by
    refine List.forall_mem_cons.mpr ⟨rfl, fun row hmem => ?_⟩
    rw [(hrows row hmem).1, List.length_cons, List.length_map]
  have htexts : (("" :: table.terminals.map Symbol.name) ::
      (table.view g).rows.map TableRow.plainTexts).map (List.map String.toList) = table.texts := by
    simp [map_plainTexts, texts, Function.comp_def, toList_plain_cellProduction]
  rw [← htexts]
  exact Columns.shows_align (List.cons_ne_nil _ _) hlength
    (List.forall_mem_cons.mpr ⟨fun text htext => (hheader text htext).1, fun row hmem =>
      (hrows row hmem).2⟩)
    fun text htext => (hheader text htext).2

end ParsingTable

namespace Grammar

variable {g : Grammar} {first follow : SymbolSets}

theorem Legible.printable_cellProduction (h : g.Legible) (hg : g.WellFormed) {left t : Symbol}
    (hne : ((g.parsingTable first follow).cell left t).entries ≠ []) :
    (cellProduction left ((g.parsingTable first follow).cell left t).entries).Printable := by
  have hentry : ∀ e ∈ ((g.parsingTable first follow).cell left t).entries,
      ∃ p : Production, p.Printable ∧ p.left = left ∧ e.alternative ∈ p.alternatives := by
    intro e he
    obtain ⟨p, hp, hleft, ha⟩ := (mem_rules_iff g _ _).mp (mem_rules_of_mem_entries he).1
    exact ⟨p, h.printable hg hp, hleft, ha⟩
  refine ⟨?_, ?_, ?_, ?_⟩
  · obtain ⟨e, he⟩ := List.exists_mem_of_ne_nil _ hne
    obtain ⟨p, hp, rfl, -⟩ := hentry e he
    exact hp.left
  all_goals
    refine List.forall_mem_map.mpr fun e he => ?_
    obtain ⟨p, hp, -, ha⟩ := hentry e he
  · exact hp.symbol _ ha
  · exact hp.normal _ ha
  · exact hp.noEnd _ ha

theorem Legible.isWord_column (h : g.Legible) {t : Symbol}
    (ht : t ∈ (g.parsingTable first follow).terminals) :
    Text.IsWord t.name.toList ∧ '|' ∉ t.name.toList := by
  rcases List.mem_append.mp ht with ht | ht
  · have hlegible := h.symbol t (SymbolTable.mem_terminals.mp ht).1
    exact ⟨hlegible.isWord, hlegible.noBar⟩
  · obtain rfl := List.mem_singleton.mp ht
    have hname : Symbol.endMarker.name.toList = ['$'] := by decide
    rw [hname]
    exact ⟨⟨by simp, by simp; decide⟩, by decide⟩

theorem Legible.shows_plain (h : g.Legible) (hg : g.WellFormed) :
    Columns.Shows ((g.parsingTable first follow).view g).plain.toList
      (g.parsingTable first follow).texts :=
  ParsingTable.shows_plain g (fun _ ht => h.isWord_column ht)
    (fun left hleft => (h.symbol left (mem_nonTerminals.mp hleft).1).isWord)
    fun _ _ hne => h.printable_cellProduction hg hne

end Grammar

namespace Analysis

/-- A printed table determines its cells. It has a line of column names, of which `$` is the last
one, and a line for every non-terminal. An empty cell is left empty, and the alternatives of any
other are found behind its arrow, name by name and in their order. -/
theorem table_plain_determines (lexing : Lexing) (text : String) (config : Config)
    {analysis : Analysis} (h : run (load lexing text).1 config = .ok analysis) :
    let table := analysis.table
    let plain := (table.view analysis.withoutLeftRecursion).plain.toList
    (plain.splitOn '\n').length = table.nonTerminals.length + 1 ∧
      Columns.Shows plain table.texts ∧
      table.terminals.getLast?.map Symbol.name = some "$" ∧
      ∀ left t, (table.cell left t).entries.Pairwise (fun e f => e.index < f.index) ∧
        (cellText left (table.cell left t).entries = [] ↔ (table.cell left t).entries = []) ∧
        namesIn left.name.toList (cellText left (table.cell left t).entries) =
          (table.cell left t).entries.map fun e => e.alternative.map fun s => s.name.toList := by
  have hg : (load lexing text).1.Prepared := .load lexing text
  have hstages := stages_of_run h
  have hlast := hstages.prepared hg
  have hsaturated := hstages.saturated hg.wellFormed
  rw [hstages.table]
  intro table plain
  have hshows : Columns.Shows plain table.texts := hlast.legible.shows_plain hlast.wellFormed
  refine ⟨?_, hshows, ?_, fun left t => ⟨hsaturated.pairwise_entries left t, cellText_eq_nil_iff,
    namesIn_cellText fun hne => hlast.legible.printable_cellProduction hlast.wellFormed hne⟩⟩
  · have hlength := congrArg List.length hshows.texts_eq
    simpa [texts] using hlength
  · have hterminals : table.terminals =
        analysis.withoutLeftRecursion.terminals ++ [.endMarker] := rfl
    rw [hterminals, List.getLast?_append_cons]
    rfl

/-- Two alternatives compete for a cell, and their bar is no bar between columns. -/
theorem table_plain_determines_conflict :
    ∃ analysis, run (load .words "S -> if | if else S").1 ⟨.words, 0, false⟩ = .ok analysis ∧
      Columns.Shows (analysis.table.view analysis.withoutLeftRecursion).plain.toList
        [[[], "if".toList, "else".toList, "$".toList],
          ["S".toList, "S -> if | if else S".toList, [], []]] ∧
      namesIn "S".toList "S -> if | if else S".toList =
        [["if".toList], ["if".toList, "else".toList, "S".toList]] := by
  have hrun : ((run (load .words "S -> if | if else S").1 ⟨.words, 0, false⟩).toOption.map
      fun analysis => (analysis.table.texts,
        (analysis.table.cell (.nonTerminal "S") (.terminal "if")).entries)) =
      some ([[[], "if".toList, "else".toList, "$".toList],
          ["S".toList, "S -> if | if else S".toList, [], []]],
        [⟨0, [.terminal "if"]⟩, ⟨1, [.terminal "if", .terminal "else", .nonTerminal "S"]⟩]) := by
    decide +kernel
  obtain ⟨analysis, hanalysis, hshape⟩ := exists_eq_ok_of_map_toOption hrun
  rw [Prod.mk.injEq] at hshape
  obtain ⟨htexts, hentries⟩ := hshape
  obtain ⟨-, hshows, -, hcells⟩ := table_plain_determines _ _ _ hanalysis
  obtain ⟨-, -, hnames⟩ := hcells (.nonTerminal "S") (.terminal "if")
  rw [htexts] at hshows
  rw [hentries] at hnames
  exact ⟨analysis, hanalysis, hshows, hnames⟩

end Analysis

end Predictive
