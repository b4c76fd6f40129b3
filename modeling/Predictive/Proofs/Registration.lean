import Predictive.Proofs.Sets.Follow
import Predictive.Table

/-!
# Registration

The cells of a table are filled one registration after another, and an alternative may be registered
in a cell twice. `lookaheads` puts together the symbols that an alternative is registered on. A cell
then has the alternatives of its row that have its column among them, entered one after another
(`entriesAt_parsingTable`), whatever was registered in other cells between them and in whatever
order the symbols of a set were taken.

Where no two productions have the same left side, the positions in a row are all different. So the
guard passes over second registrations only, and the cell has exactly the alternatives that were
registered, in the order of the production (`entries_cell`).
-/

namespace Predictive

def lookaheads (first follow : SymbolSets) (left : Symbol) (a : Alternative) : List Symbol :=
  let own := firstOf first a
  if own.contains .epsilon then union (withoutEpsilon own) (follow.members left)
  else withoutEpsilon own

theorem mem_lookaheads {first follow : SymbolSets} {left s : Symbol} {a : Alternative} :
    s ∈ lookaheads first follow left a ↔
      s ∈ firstOf first a ∧ s ≠ .epsilon ∨
        .epsilon ∈ firstOf first a ∧ follow.contains left s = true := by
  rw [lookaheads, SymbolSets.contains_iff]
  exact mem_ite_contains_epsilon

/-! ### One cell -/

namespace Entry

variable {entry e : Entry} {entries new : List Entry}

theorem insert_of_mem (h : entry ∈ entries) : entry.insert entries = entries := by
  rw [insert, if_neg]
  rw [List.all_eq_true]
  intro hall
  simpa using hall entry h

theorem mem_of_mem_insert (h : e ∈ entry.insert entries) : e = entry ∨ e ∈ entries := by
  unfold insert at h
  split at h
  · rcases List.mem_append.mp h with h | h
    · exact .inr h
    · exact .inl (List.mem_singleton.mp h)
  · exact .inr h

/-- A second registration changes nothing, also where the first one was passed over. -/
theorem insert_insert (entry : Entry) (entries : List Entry) :
    entry.insert (entry.insert entries) = entry.insert entries := by
  by_cases h : entries.all fun e => e.index != entry.index
  · exact insert_of_mem (by simp [insert, h])
  · have hkept : entry.insert entries = entries := if_neg h
    rw [hkept, hkept]

def insertAll (new entries : List Entry) : List Entry :=
  new.foldl (fun entries entry => entry.insert entries) entries

theorem insertAll_append (new new' entries : List Entry) :
    insertAll (new ++ new') entries = insertAll new' (insertAll new entries) :=
  List.foldl_append

theorem mem_of_mem_insertAll (h : e ∈ insertAll new entries) : e ∈ new ∨ e ∈ entries := by
  induction new generalizing entries with
  | nil => exact .inr h
  | cons entry new ih =>
      rcases ih h with h | h
      · exact .inl (List.mem_cons_of_mem entry h)
      · rcases mem_of_mem_insert h with rfl | h
        · exact .inl List.mem_cons_self
        · exact .inr h

theorem insertAll_of_pairwise (h : (entries ++ new).Pairwise fun e f => e.index ≠ f.index) :
    insertAll new entries = entries ++ new := by
  induction new generalizing entries with
  | nil => rw [List.append_nil, insertAll, List.foldl_nil]
  | cons entry new ih =>
      have hentry : entry.insert entries = entries ++ [entry] := by
        refine if_pos (List.all_eq_true.mpr fun e he => ?_)
        simpa using (List.pairwise_append.mp h).2.2 e he entry List.mem_cons_self
      rw [List.append_cons] at h
      rw [List.append_cons, ← ih h, ← hentry]
      rfl

end Entry

namespace CellMap

variable {first follow : SymbolSets} (cells : CellMap) (left A s t : Symbol) (entry : Entry)

theorem entriesAt_register :
    (cells.register left s entry).entriesAt A t =
      if A = left ∧ t = s then entry.insert (cells.entriesAt A t) else cells.entriesAt A t := by
  unfold register
  split
  · next h =>
      obtain ⟨rfl, rfl⟩ := h
      rw [entriesAt, lookup_insertKey_self, Option.getD_some]
  · next h =>
      have hne : (A, t) ≠ (left, s) := fun heq => h (Prod.mk.inj heq)
      rw [entriesAt, lookup_insertKey_of_ne hne, ← entriesAt]

theorem entriesAt_registerAll (symbols : List Symbol) :
    (cells.registerAll left symbols entry).entriesAt A t =
      if A = left ∧ t ∈ symbols then entry.insert (cells.entriesAt A t)
      else cells.entriesAt A t := by
  induction symbols generalizing cells with
  | nil => simp [registerAll]
  | cons s symbols ih =>
      have hcons : cells.registerAll left (s :: symbols) entry =
          (cells.register left s entry).registerAll left symbols entry := rfl
      rw [hcons, ih, entriesAt_register]
      by_cases hleft : A = left
      · by_cases hs : t = s
        · by_cases ht : t ∈ symbols <;> simp [hleft, hs, Entry.insert_insert]
        · simp [hleft, hs]
      · simp [hleft]

/-- Both reasons to register an alternative on a symbol come to one registration. -/
theorem entriesAt_registerAlternative :
    (cells.registerAlternative first follow left entry).entriesAt A t =
      if A = left ∧ t ∈ lookaheads first follow left entry.alternative then
        entry.insert (cells.entriesAt A t)
      else cells.entriesAt A t := by
  unfold registerAlternative lookaheads
  dsimp only
  split
  · rw [entriesAt_registerAll, entriesAt_registerAll]
    by_cases hleft : A = left
    · by_cases hfirst : t ∈ withoutEpsilon (firstOf first entry.alternative) <;>
        by_cases hfollow : t ∈ follow.members left <;>
          simp [hleft, hfirst, hfollow, mem_union, Entry.insert_insert]
    · simp [hleft]
  · exact entriesAt_registerAll ..

theorem entriesAt_foldl_registerAlternative (entries : List Entry) :
    (entries.foldl (registerAlternative first follow left) cells).entriesAt A t =
      if A = left then
        Entry.insertAll (entries.filter fun e =>
          (lookaheads first follow A e.alternative).contains t) (cells.entriesAt A t)
      else cells.entriesAt A t := by
  induction entries generalizing cells with
  | nil => simp [Entry.insertAll]
  | cons e entries ih =>
      rw [List.foldl_cons, ih, entriesAt_registerAlternative]
      by_cases hleft : A = left
      · subst hleft
        by_cases ht : t ∈ lookaheads first follow A e.alternative <;>
          simp [ht, Entry.insertAll]
      · simp [hleft]

/-- What a cell has after the registration of productions: the alternatives of its row that have its
column among their symbols, entered one after another. -/
theorem entriesAt_foldl_registerProduction (productions : List Production) :
    (productions.foldl (registerProduction first follow) cells).entriesAt A t =
      Entry.insertAll ((productions.flatMap fun p =>
        if p.left = A then p.alternatives.mapIdx Entry.mk else []).filter fun e =>
          (lookaheads first follow A e.alternative).contains t) (cells.entriesAt A t) := by
  induction productions generalizing cells with
  | nil => rfl
  | cons p productions ih =>
      rw [List.foldl_cons, ih, registerProduction, entriesAt_foldl_registerAlternative,
        List.flatMap_cons, List.filter_append, Entry.insertAll_append]
      by_cases hleft : p.left = A
      · rw [if_pos hleft.symm, if_pos hleft]
      · rw [if_neg (Ne.symm hleft), if_neg hleft]
        rfl

end CellMap

namespace ParsingTable

theorem entries_cell (table : ParsingTable) (left t : Symbol) :
    (table.cell left t).entries = table.registered.entriesAt left t :=
  Cell.entries_ofEntries _

theorem ofEntries_entries_cell (table : ParsingTable) (left t : Symbol) :
    Cell.ofEntries (table.cell left t).entries = table.cell left t := by
  rw [entries_cell, cell]

end ParsingTable

/-! ### The cells of a grammar -/

namespace Grammar

variable {g : Grammar} {first follow : SymbolSets}

theorem entriesAt_parsingTable (g : Grammar) (left t : Symbol) :
    ((g.parsingTable first follow).cell left t).entries =
      Entry.insertAll ((g.productions.flatMap fun p =>
        if p.left = left then p.alternatives.mapIdx Entry.mk else []).filter fun e =>
          (lookaheads first follow left e.alternative).contains t) [] := by
  rw [ParsingTable.entries_cell]
  exact CellMap.entriesAt_foldl_registerProduction .empty left t g.productions

def numbered (g : Grammar) (left : Symbol) : List Entry :=
  (g.production? left).elim [] fun p => p.alternatives.mapIdx Entry.mk

theorem mem_numbered_iff {left : Symbol} {i : ℕ} {a : Alternative} :
    ⟨i, a⟩ ∈ g.numbered left ↔
      ∃ p, g.production? left = some p ∧ p.alternatives[i]? = some a := by
  cases hp : g.production? left with
  | none => simp [numbered, hp]
  | some p => simp [numbered, hp, List.mem_mapIdx, List.getElem?_eq_some_iff]

theorem pairwise_numbered (g : Grammar) (left : Symbol) :
    (g.numbered left).Pairwise fun e f => e.index < f.index := by
  cases hp : g.production? left with
  | none => simp [numbered, hp]
  | some p =>
      simp only [numbered, hp, Option.elim_some]
      rw [List.pairwise_iff_getElem]
      intro i j hi hj hij
      simpa using hij

theorem flatMap_ite_left {α : Type} {productions : List Production}
    (h : (productions.map Production.left).Nodup) (left : Symbol) (f : Production → List α) :
    (productions.flatMap fun p => if p.left = left then f p else []) =
      (productions.find? fun p => p.left == left).elim [] f := by
  induction productions with
  | nil => rfl
  | cons q rest ih =>
      obtain ⟨hq, hrest⟩ := List.nodup_cons.mp h
      rw [List.flatMap_cons]
      by_cases hleft : q.left = left
      · have hnone : (rest.flatMap fun p => if p.left = left then f p else []) = [] := by
          rw [List.flatMap_eq_nil_iff]
          intro p hp
          refine if_neg fun heq => hq ?_
          rw [hleft, ← heq]
          exact List.mem_map_of_mem hp
        rw [if_pos hleft, hnone, List.append_nil, List.find?_cons_of_pos (by simpa using hleft)]
        rfl
      · rw [if_neg hleft, List.nil_append, ih hrest,
          List.find?_cons_of_neg (by simpa using hleft)]

/-- A cell holds the alternatives of its row that are registered on its column, in their order. -/
theorem WellFormed.entries_cell (hg : g.WellFormed) (left t : Symbol) :
    ((g.parsingTable first follow).cell left t).entries =
      (g.numbered left).filter fun e =>
        (lookaheads first follow left e.alternative).contains t := by
  rw [entriesAt_parsingTable, flatMap_ite_left hg.lefts_nodup, ← production?, ← numbered]
  refine Entry.insertAll_of_pairwise ?_
  exact ((g.pairwise_numbered left).imp Nat.ne_of_lt).filter _

theorem mem_rules_of_mem_entries {left s : Symbol} {entry : Entry}
    (h : entry ∈ ((g.parsingTable first follow).cell left s).entries) :
    (left, entry.alternative) ∈ g.rules ∧ s ∈ lookaheads first follow left entry.alternative := by
  rw [entriesAt_parsingTable] at h
  obtain ⟨hmem, hs⟩ := List.mem_filter.mp
    ((Entry.mem_of_mem_insertAll h).resolve_right List.not_mem_nil)
  obtain ⟨p, hp, hentry⟩ := List.mem_flatMap.mp hmem
  refine ⟨?_, List.contains_iff_mem.mp hs⟩
  split at hentry
  · next hleft =>
      obtain ⟨i, hi, rfl⟩ := List.mem_mapIdx.mp hentry
      exact (mem_rules_iff g _ _).mpr ⟨p, hp, hleft, List.getElem_mem hi⟩
  · cases hentry

theorem WellFormed.mem_entries (hg : g.WellFormed) {left : Symbol} {p : Production}
    (hp : g.production? left = some p) {i : ℕ} {a : Alternative}
    (ha : p.alternatives[i]? = some a) {s : Symbol} (hs : s ∈ lookaheads first follow left a) :
    ⟨i, a⟩ ∈ ((g.parsingTable first follow).cell left s).entries := by
  rw [hg.entries_cell]
  exact List.mem_filter.mpr ⟨mem_numbered_iff.mpr ⟨p, hp, ha⟩, List.contains_iff_mem.mpr hs⟩

end Grammar

end Predictive
