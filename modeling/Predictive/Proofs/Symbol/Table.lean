import Mathlib.Data.List.Nodup
import Mathlib.Tactic.ByContra
import Predictive.Symbol.Table

/-!
# Well-formed symbol tables

A table is well-formed when its names are pairwise distinct and every symbol in it could be named by
a text: it is a terminal or a non-terminal, and its name is not reserved. Entering symbols keeps a
table well-formed and never takes a symbol out (`WellFormed.intern`, `prefix_internAll`).

A fresh name is a name of the table in no case: the candidates are pairwise distinct, so one more
candidate than there are names cannot all be taken (`freshName_notMem`). It is never reserved
either, because every candidate has an apostrophe. So a table accepts a fresh symbol like one that a
text names (`internAll_eq_of_wellFormed`).
-/

namespace Predictive

namespace Symbol

structure Nameable (s : Symbol) : Prop where
  kind : s.isTerminal = true ∨ s.isNonTerminal = true
  unreserved : s.name ≠ epsilonName ∧ s.name ≠ endMarkerName

theorem Nameable.ne_epsilon {s : Symbol} (h : s.Nameable) : s ≠ .epsilon := by
  rintro rfl
  rcases h.kind with hkind | hkind <;> cases hkind

theorem Nameable.ne_endMarker {s : Symbol} (h : s.Nameable) : s ≠ .endMarker := by
  rintro rfl
  rcases h.kind with hkind | hkind <;> cases hkind

end Symbol

namespace SymbolTable

structure WellFormed (table : SymbolTable) : Prop where
  nodup : table.names.Nodup
  nameable : ∀ s ∈ table.named, s.Nameable

theorem wellFormed_empty : WellFormed empty where
  nodup := .nil
  nameable _ h := nomatch h

theorem WellFormed.named_nodup {table : SymbolTable} (h : table.WellFormed) :
    table.named.Nodup :=
  List.Nodup.of_map Symbol.name h.nodup

theorem mem_symbols {table : SymbolTable} {s : Symbol} :
    s ∈ table.symbols ↔ s = .epsilon ∨ s = .endMarker ∨ s ∈ table.named := by
  simp [symbols]

theorem WellFormed.symbols_nodup {table : SymbolTable} (h : table.WellFormed) :
    table.symbols.Nodup := by
  refine List.nodup_cons.mpr ⟨fun hmem => ?_, List.nodup_cons.mpr ⟨fun hmem => ?_, h.named_nodup⟩⟩
  · have hnamed := (List.mem_cons.mp hmem).resolve_left (by simp)
    exact (h.nameable _ hnamed).ne_epsilon rfl
  · exact (h.nameable _ hmem).ne_endMarker rfl

theorem WellFormed.get?_eq_some_iff {table : SymbolTable} (h : table.WellFormed) {name : String}
    {s : Symbol} : table.get? name = some s ↔ s ∈ table.named ∧ s.name = name := by
  constructor
  · exact fun hs => ⟨mem_named_of_get?_eq_some hs, name_of_get?_eq_some hs⟩
  · rintro ⟨hs, rfl⟩
    cases hget : table.get? s.name with
    | none => exact absurd (List.mem_map_of_mem hs) ((get?_eq_none_iff table s.name).mp hget)
    | some t =>
        rw [List.inj_on_of_nodup_map h.nodup (mem_named_of_get?_eq_some hget) hs
          (name_of_get?_eq_some hget)]

theorem mem_nonTerminals {table : SymbolTable} {s : Symbol} :
    s ∈ table.nonTerminals ↔ s ∈ table.named ∧ s.isNonTerminal = true := by
  rw [nonTerminals, List.mem_filter, mem_symbols]
  constructor
  · rintro ⟨rfl | rfl | h, hs⟩
    · cases hs
    · cases hs
    · exact ⟨h, hs⟩
  · rintro ⟨h, hs⟩
    exact ⟨.inr (.inr h), hs⟩

theorem mem_terminals {table : SymbolTable} {s : Symbol} :
    s ∈ table.terminals ↔ s ∈ table.named ∧ s.isTerminal = true := by
  rw [terminals, List.mem_filter, mem_symbols]
  constructor
  · rintro ⟨rfl | rfl | h, hs⟩
    · cases hs
    · cases hs
    · exact ⟨h, hs⟩
  · rintro ⟨h, hs⟩
    exact ⟨.inr (.inr h), hs⟩

theorem WellFormed.push {table : SymbolTable} (h : table.WellFormed) {s : Symbol}
    (hs : s.Nameable) (hnew : s.name ∉ table.names) : (table.push s).WellFormed where
  nodup := by
    rw [names_push]
    refine List.nodup_append.mpr ⟨h.nodup, by simp, ?_⟩
    intro name hname other hother
    rw [List.mem_singleton.mp hother]
    exact fun heq => hnew (heq ▸ hname)
  nameable t ht := by
    rcases List.mem_append.mp ht with ht | ht
    · exact h.nameable t ht
    · exact List.mem_singleton.mp ht ▸ hs

theorem mem_symbols_of_nameable {table : SymbolTable} {s : Symbol} (hs : s.Nameable) :
    s ∈ table.symbols ↔ s ∈ table.named := by
  rw [mem_symbols]
  constructor
  · rintro (heq | heq | h)
    · exact absurd heq hs.ne_epsilon
    · exact absurd heq hs.ne_endMarker
    · exact h
  · exact fun h => .inr (.inr h)

theorem prefix_insert (table : SymbolTable) (s : Symbol) :
    table.named <+: (table.insert s).named := by
  unfold insert
  split
  · exact List.prefix_rfl
  · exact List.prefix_append _ _

theorem mem_insert_self {table : SymbolTable} {s : Symbol} (hs : s.Nameable) :
    s ∈ (table.insert s).named := by
  unfold insert
  split
  · next hheld => exact (mem_symbols_of_nameable hs).mp hheld
  · exact List.mem_append_right _ List.mem_cons_self

theorem mem_of_mem_insert {table : SymbolTable} {s t : Symbol} (h : t ∈ (table.insert s).named) :
    t ∈ table.named ∨ t = s := by
  unfold insert at h
  split at h
  · exact .inl h
  · exact (List.mem_append.mp h).imp_right List.mem_singleton.mp

theorem WellFormed.insert {table : SymbolTable} (h : table.WellFormed) {s : Symbol}
    (hs : s.Nameable) (hkind : ∀ t ∈ table.named, t.kind = s.kind) :
    (table.insert s).WellFormed := by
  unfold SymbolTable.insert
  split
  · exact h
  · next hnew =>
      refine h.push hs fun hname => hnew ((mem_symbols_of_nameable hs).mpr ?_)
      obtain ⟨t, ht, htname⟩ := List.mem_map.mp hname
      have heq : t = s := by
        rw [← Symbol.ofKind_kind_name t, ← Symbol.ofKind_kind_name s, htname, hkind t ht]
      exact heq ▸ ht

theorem intern_of_kind (table : SymbolTable) {s : Symbol}
    (h : s.isTerminal = true ∨ s.isNonTerminal = true) :
    table.intern s =
      if s.name = Symbol.epsilonName ∨ s.name = Symbol.endMarkerName then
        .error (.reserved s.name)
      else
        match table.get? s.name with
        | some held => if held = s then .ok table else .error (.conflictingKind s.name)
        | none => .ok (table.push s) := by
  cases s with
  | epsilon => simp [Symbol.isTerminal, Symbol.isNonTerminal] at h
  | endMarker => simp [Symbol.isTerminal, Symbol.isNonTerminal] at h
  | terminal name => rfl
  | nonTerminal name => rfl

/-- A symbol that a table takes in is there already, or it is new in kind and name. -/
theorem intern_eq_ok {table table' : SymbolTable} {s : Symbol} (h : table.intern s = .ok table') :
    (table' = table ∧ s ∈ table.symbols) ∨
      (table' = table.push s ∧ s.Nameable ∧ s.name ∉ table.names) := by
  by_cases hkind : s.isTerminal = true ∨ s.isNonTerminal = true
  · rw [intern_of_kind table hkind] at h
    split at h
    · cases h
    · next hreserved =>
        split at h
        · next held hheld =>
            split at h
            · next heq =>
                cases h
                have hmem : s ∈ table.named := heq ▸ mem_named_of_get?_eq_some hheld
                exact .inl ⟨rfl, mem_symbols.mpr (.inr (.inr hmem))⟩
            · cases h
        · next hnone =>
            cases h
            exact .inr ⟨rfl, ⟨hkind, not_or.mp hreserved⟩, (get?_eq_none_iff table _).mp hnone⟩
  · cases s with
    | epsilon =>
        cases h
        exact .inl ⟨rfl, mem_symbols.mpr (.inl rfl)⟩
    | endMarker =>
        cases h
        exact .inl ⟨rfl, mem_symbols.mpr (.inr (.inl rfl))⟩
    | terminal name => exact absurd (.inl rfl) hkind
    | nonTerminal name => exact absurd (.inr rfl) hkind

theorem WellFormed.intern {table table' : SymbolTable} {s : Symbol} (h : table.WellFormed)
    (hintern : table.intern s = .ok table') : table'.WellFormed := by
  rcases intern_eq_ok hintern with ⟨rfl, -⟩ | ⟨rfl, hs, hnew⟩
  · exact h
  · exact h.push hs hnew

theorem prefix_intern {table table' : SymbolTable} {s : Symbol}
    (hintern : table.intern s = .ok table') : table.named <+: table'.named := by
  rcases intern_eq_ok hintern with ⟨rfl, -⟩ | ⟨rfl, -⟩
  · exact List.prefix_rfl
  · exact List.prefix_append _ _

theorem mem_symbols_of_intern {table table' : SymbolTable} {s : Symbol}
    (hintern : table.intern s = .ok table') : s ∈ table'.symbols := by
  rcases intern_eq_ok hintern with ⟨rfl, hs⟩ | ⟨rfl, -⟩
  · exact hs
  · rw [symbols_push]
    exact List.mem_append_right _ List.mem_cons_self

theorem symbols_subset_of_prefix {table table' : SymbolTable}
    (h : table.named <+: table'.named) : table.symbols ⊆ table'.symbols := by
  intro s hs
  rw [mem_symbols] at hs ⊢
  exact hs.imp_right fun hs => hs.imp_right fun hs => h.subset hs

theorem WellFormed.internAll {table : SymbolTable} (h : table.WellFormed) (sequence : List Symbol) :
    (table.internAll sequence).1.WellFormed := by
  induction sequence generalizing table with
  | nil => exact h
  | cons s rest ih =>
      rw [SymbolTable.internAll]
      split
      · next table' hintern => exact ih (h.intern hintern)
      · exact h

theorem prefix_internAll (table : SymbolTable) (sequence : List Symbol) :
    table.named <+: (table.internAll sequence).1.named := by
  induction sequence generalizing table with
  | nil => exact List.prefix_rfl
  | cons s rest ih =>
      rw [internAll]
      split
      · next table' hintern => exact (prefix_intern hintern).trans (ih table')
      · exact List.prefix_rfl

theorem mem_symbols_of_internAll {table : SymbolTable} {sequence : List Symbol}
    (h : (table.internAll sequence).2 = none) :
    ∀ s ∈ sequence, s ∈ (table.internAll sequence).1.symbols := by
  induction sequence generalizing table with
  | nil => exact fun s hs => nomatch hs
  | cons s rest ih =>
      rw [internAll] at h ⊢
      cases hintern : table.intern s with
      | error error =>
          rw [hintern] at h
          cases h
      | ok table' =>
          rw [hintern] at h
          intro t ht
          rcases List.mem_cons.mp ht with rfl | ht
          · exact symbols_subset_of_prefix (prefix_internAll table' rest)
              (mem_symbols_of_intern hintern)
          · exact ih h t ht

theorem intern_eq_push {table : SymbolTable} {s : Symbol} (hs : s.Nameable)
    (hnew : s.name ∉ table.names) : table.intern s = .ok (table.push s) := by
  rw [intern_of_kind table hs.kind, if_neg (not_or.mpr hs.unreserved),
    (get?_eq_none_iff table s.name).mpr hnew]

/-- A table accepts all symbols with which it stays well-formed. -/
theorem internAll_eq_of_wellFormed (table : SymbolTable) (new : List Symbol)
    (h : WellFormed ⟨table.named ++ new⟩) :
    table.internAll new = (⟨table.named ++ new⟩, none) := by
  induction new generalizing table with
  | nil => rw [internAll, List.append_nil]
  | cons s rest ih =>
      have hs : s.Nameable := h.nameable s (List.mem_append_right _ List.mem_cons_self)
      have hnew : s.name ∉ table.names := by
        have hnodup := h.nodup
        rw [names, List.map_append] at hnodup
        intro hmem
        have hname : s.name ∈ (s :: rest).map Symbol.name := List.mem_cons_self
        exact (List.nodup_append.mp hnodup).2.2 _ hmem _ hname rfl
      have hpush : (table.push s).named ++ rest = table.named ++ s :: rest := by
        rw [push, List.append_assoc, List.singleton_append]
      rw [internAll, intern_eq_push hs hnew]
      simp only
      rw [ih (table.push s) (by rwa [hpush]), hpush]

/-! ### Fresh names -/

theorem toList_candidate_succ (base : String) (n : Nat) :
    (candidate base (n + 1)).toList = base.toList ++ '\'' :: Nat.toDigits 10 (n + 1) := by
  simp [candidate]

theorem toList_candidate_zero (base : String) :
    (candidate base 0).toList = base.toList ++ ['\''] := by
  simp [candidate]

theorem candidate_injective {base : String} {m n : Nat}
    (h : candidate base m = candidate base n) : m = n := by
  have hlist := congrArg String.toList h
  cases m with
  | zero =>
      cases n with
      | zero => rfl
      | succ n =>
          rw [toList_candidate_zero, toList_candidate_succ, List.append_cancel_left_eq,
            List.cons.injEq] at hlist
          exact absurd hlist.2.symm Nat.toDigits_ne_nil
  | succ m =>
      cases n with
      | zero =>
          rw [toList_candidate_zero, toList_candidate_succ, List.append_cancel_left_eq,
            List.cons.injEq] at hlist
          exact absurd hlist.2 Nat.toDigits_ne_nil
      | succ n =>
          rw [toList_candidate_succ, toList_candidate_succ, List.append_cancel_left_eq,
            List.cons.injEq] at hlist
          have hdigits := congrArg (Nat.ofDigitChars 10 · 0) hlist.2
          simpa using hdigits

theorem exists_candidate_notMem (taken : List String) (base : String) :
    ∃ n < taken.length + 1, candidate base n ∉ taken := by
  by_contra hall
  have hsubset : (List.range (taken.length + 1)).map (candidate base) ⊆ taken := by
    intro name hname
    obtain ⟨n, hn, rfl⟩ := List.mem_map.mp hname
    by_contra hnot
    exact hall ⟨n, List.mem_range.mp hn, hnot⟩
  have hnodup : ((List.range (taken.length + 1)).map (candidate base)).Nodup :=
    List.Pairwise.map _ (fun _ _ hne heq => hne (candidate_injective heq)) List.nodup_range
  have hle := hnodup.length_le_of_subset hsubset
  rw [List.length_map, List.length_range] at hle
  omega

theorem candidate_freshIndex_notMem (taken : List String) (base : String) :
    candidate base (freshIndex taken base) ∉ taken := by
  obtain ⟨n, hn, hfree⟩ := exists_candidate_notMem taken base
  unfold freshIndex
  cases hfind : (List.range (taken.length + 1)).find?
      fun n => !taken.contains (candidate base n) with
  | none =>
      have := List.find?_eq_none.mp hfind n (List.mem_range.mpr hn)
      simp [hfree] at this
  | some m =>
      have := List.find?_some hfind
      simpa using this

/-- The chosen candidate is the first that is not taken. -/
theorem candidate_mem_of_lt_freshIndex {taken : List String} {base : String} {n : ℕ}
    (h : n < freshIndex taken base) : candidate base n ∈ taken := by
  obtain ⟨free, hlt, hfree⟩ := exists_candidate_notMem taken base
  unfold freshIndex at h
  cases hfind : (List.range (taken.length + 1)).find?
      fun n => !taken.contains (candidate base n) with
  | none =>
      have := List.find?_eq_none.mp hfind free (List.mem_range.mpr hlt)
      simp [hfree] at this
  | some m =>
      rw [hfind] at h
      have := (List.find?_range_eq_some.mp hfind).2.2 n h
      simpa using this

theorem freshIndex_le {taken taken' : List String} {base : String}
    (h : ∀ n, candidate base n ∈ taken' → candidate base n ∈ taken) :
    freshIndex taken' base ≤ freshIndex taken base := by
  by_contra hlt
  exact candidate_freshIndex_notMem taken base
    (h _ (candidate_mem_of_lt_freshIndex (Nat.not_le.mp hlt)))

/-- The choice depends on nothing but which candidates are taken. -/
theorem freshIndex_eq {taken taken' : List String} {base : String}
    (h : ∀ n, candidate base n ∈ taken ↔ candidate base n ∈ taken') :
    freshIndex taken base = freshIndex taken' base :=
  Nat.le_antisymm (freshIndex_le fun n => (h n).mp) (freshIndex_le fun n => (h n).mpr)

theorem freshName_notMem (table : SymbolTable) (base : String) :
    table.freshName base ∉ table.names :=
  candidate_freshIndex_notMem table.names base

theorem apostrophe_mem_candidate (base : String) (n : Nat) :
    '\'' ∈ (candidate base n).toList := by
  cases n with
  | zero => simp [toList_candidate_zero]
  | succ n => simp [toList_candidate_succ]

/-- A name without an apostrophe is no candidate, for instance a reserved one. -/
theorem candidate_ne {base name : String} (n : Nat) (h : '\'' ∉ name.toList) :
    candidate base n ≠ name :=
  fun heq => h (heq ▸ apostrophe_mem_candidate base n)

theorem nameable_fresh (table : SymbolTable) (base : String) :
    (table.fresh base).1.Nameable where
  kind := .inr rfl
  unreserved := ⟨candidate_ne _ (by decide), candidate_ne _ (by decide)⟩

theorem fresh_notMem_symbols (table : SymbolTable) (base : String) :
    (table.fresh base).1 ∉ table.symbols := by
  intro hmem
  have hnamed := (mem_symbols_of_nameable (nameable_fresh table base)).mp hmem
  exact freshName_notMem table base (List.mem_map_of_mem (f := Symbol.name) hnamed)

theorem WellFormed.fresh {table : SymbolTable} (h : table.WellFormed) (base : String) :
    (table.fresh base).2.WellFormed :=
  h.push (nameable_fresh table base) (freshName_notMem table base)

theorem WellFormed.new_nodup {table table' : SymbolTable} {new : List Symbol}
    (h : table'.WellFormed) (hnew : table'.named = table.named ++ new) :
    new.Nodup ∧ ∀ s ∈ new, s ∉ table.symbols := by
  have hnodup := h.named_nodup
  rw [hnew] at hnodup
  obtain ⟨-, hnodup, hdisjoint⟩ := List.nodup_append.mp hnodup
  refine ⟨hnodup, fun s hs hmem => ?_⟩
  have hnameable := h.nameable s (hnew ▸ List.mem_append_right _ hs)
  exact hdisjoint s ((mem_symbols_of_nameable hnameable).mp hmem) s hs rfl

end SymbolTable

end Predictive
