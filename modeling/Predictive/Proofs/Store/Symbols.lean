import Predictive.Proofs.Symbol.Table
import Predictive.Store.Symbols

/-!
# Intact symbol stores

A symbol store says everything twice: the names and the kinds are columns of the same slots, and the
index leads back from a name to its slot. `Intact` says how they agree. Interning keeps a store
intact, and it only ever appends slots (`Extends`), so a handle keeps its name and its kind.

An intact store stands for a well-formed symbol table. Different handles are different symbols
(`Intact.symbol_inj`), and interning does to the table what it does to the store
(`Intact.view_intern`).
-/

namespace Predictive

theorem getElem?_mono {α : Type} {l l' : List α} (h : l <+: l') {i : ℕ} {a : α}
    (hi : l[i]? = some a) : l'[i]? = some a := by
  obtain ⟨hlt, rfl⟩ := List.getElem?_eq_some_iff.mp hi
  exact List.prefix_iff_getElem?.mp h i hlt

namespace SymbolStore

/-- The columns of a store and its index agree. -/
structure Intact (store : SymbolStore) : Prop where
  slots : store.names.length = store.kinds.length
  names_take : store.names.take 2 = [Symbol.epsilonName, Symbol.endMarkerName]
  kinds_take : store.kinds.take 2 = [.epsilon, .endMarker]
  kinds_drop : ∀ kind ∈ store.kinds.drop 2, kind = .terminal ∨ kind = .nonTerminal
  index_iff : ∀ name h, store.get? name = some h ↔ 2 ≤ h ∧ store.names[h]? = some name
  names_nodup : (store.names.drop 2).Nodup
  unreserved : ∀ name ∈ store.names.drop 2,
    name ≠ Symbol.epsilonName ∧ name ≠ Symbol.endMarkerName

def Has (store : SymbolStore) (h : Handle) : Prop := h < store.names.length

instance (store : SymbolStore) (h : Handle) : Decidable (store.Has h) :=
  inferInstanceAs (Decidable (_ < _))

def Extends (store store' : SymbolStore) : Prop :=
  store.names <+: store'.names ∧ store.kinds <+: store'.kinds

theorem Extends.refl (store : SymbolStore) : store.Extends store :=
  ⟨List.prefix_rfl, List.prefix_rfl⟩

theorem Extends.trans {a b c : SymbolStore} (hab : a.Extends b) (hbc : b.Extends c) :
    a.Extends c :=
  ⟨hab.1.trans hbc.1, hab.2.trans hbc.2⟩

theorem Extends.has {store store' : SymbolStore} (h : store.Extends store') {s : Handle}
    (hs : store.Has s) : store'.Has s :=
  Nat.lt_of_lt_of_le hs h.1.length_le

theorem extends_push (store : SymbolStore) (name : String) (kind : Kind) :
    store.Extends (store.push name kind) :=
  ⟨List.prefix_append _ _, List.prefix_append _ _⟩

theorem intern_of_kind (store : SymbolStore) (name : String) {kind : Kind}
    (h : kind = .terminal ∨ kind = .nonTerminal) :
    store.intern name kind =
      if name = Symbol.epsilonName ∨ name = Symbol.endMarkerName then .error (.reserved name)
      else
        match store.get? name with
        | some s =>
          if store.kinds[s]? = some kind then .ok (s, store) else .error (.conflictingKind name)
        | none => .ok (store.names.length, store.push name kind) := by
  rcases h with rfl | rfl <;> rfl

theorem intact_empty : empty.Intact where
  slots := rfl
  names_take := rfl
  kinds_take := rfl
  kinds_drop _ h := nomatch h
  index_iff name h := by
    constructor
    · intro hget
      cases hget
    · rintro ⟨hle, hname⟩
      obtain ⟨hlt, -⟩ := List.getElem?_eq_some_iff.mp hname
      exact absurd hlt (Nat.not_lt.mpr hle)
  names_nodup := .nil
  unreserved _ h := nomatch h

namespace Intact

variable {store store' : SymbolStore}

theorem two_le_length (h : store.Intact) : 2 ≤ store.names.length := by
  have hlength := congrArg List.length h.names_take
  rw [List.length_take, List.length_cons, List.length_cons, List.length_nil] at hlength
  omega

theorem push (h : store.Intact) {name : String} {kind : Kind}
    (hkind : kind = .terminal ∨ kind = .nonTerminal)
    (hreserved : name ≠ Symbol.epsilonName ∧ name ≠ Symbol.endMarkerName)
    (hnew : store.get? name = none) : (store.push name kind).Intact := by
  have hnames := h.two_le_length
  have hkinds : 2 ≤ store.kinds.length := h.slots ▸ hnames
  have hnot : name ∉ store.names.drop 2 := by
    intro hmem
    obtain ⟨i, hi⟩ := List.mem_iff_getElem?.mp hmem
    rw [List.getElem?_drop] at hi
    rw [(h.index_iff name (2 + i)).mpr ⟨Nat.le_add_right 2 i, hi⟩] at hnew
    cases hnew
  refine ⟨?_, ?_, ?_, ?_, ?_, ?_, ?_⟩
  · rw [SymbolStore.push, List.length_append, List.length_append, h.slots]
    rfl
  · rw [SymbolStore.push, List.take_append_of_le_length hnames, h.names_take]
  · rw [SymbolStore.push, List.take_append_of_le_length hkinds, h.kinds_take]
  · rw [SymbolStore.push, List.drop_append_of_le_length hkinds, List.forall_mem_append]
    exact ⟨h.kinds_drop, List.forall_mem_singleton.mpr hkind⟩
  · intro other i
    by_cases hother : other = name
    · subst hother
      have hself : (store.push other kind).get? other = some store.names.length :=
        lookup_insertKey_self _ _ _
      rw [hself, SymbolStore.push, Option.some.injEq]
      constructor
      · rintro rfl
        exact ⟨hnames, List.getElem?_concat_length⟩
      · rintro ⟨hi, hget⟩
        -- A slot before the new one with this name would be in the index.
        by_contra hne
        obtain ⟨hlt, -⟩ := List.getElem?_eq_some_iff.mp hget
        rw [List.length_append, List.length_singleton] at hlt
        rw [List.getElem?_append_left (by omega)] at hget
        rw [(h.index_iff other i).mpr ⟨hi, hget⟩] at hnew
        cases hnew
    · have hold : (store.push name kind).get? other = store.get? other :=
        lookup_insertKey_of_ne hother _ _
      rw [hold, h.index_iff, SymbolStore.push, List.getElem?_append]
      split
      · exact Iff.rfl
      · next hge =>
          rw [List.getElem?_eq_none (Nat.not_lt.mp hge), List.getElem?_singleton]
          split <;> simp [Ne.symm hother]
  · rw [SymbolStore.push, List.drop_append_of_le_length hnames]
    refine List.nodup_append.mpr ⟨h.names_nodup, by simp, ?_⟩
    rintro a ha b hb rfl
    obtain rfl := List.mem_singleton.mp hb
    exact hnot ha
  · rw [SymbolStore.push, List.drop_append_of_le_length hnames, List.forall_mem_append]
    exact ⟨h.unreserved, List.forall_mem_singleton.mpr hreserved⟩

/-! ### What the slots stand for -/

theorem length_symbols (h : store.Intact) : store.symbols.length = store.names.length := by
  rw [symbols, List.length_zipWith, h.slots, Nat.min_self]

theorem symbols_eq (h : store.Intact) : store.symbols = store.view.symbols := by
  conv => lhs; rw [← List.take_append_drop 2 store.symbols]
  rw [symbols, List.take_zipWith, h.names_take, h.kinds_take]
  rfl

theorem getElem?_symbols (h : store.Intact) {s : Handle} (hs : store.Has s) :
    store.symbols[s]? = some (store.symbol s) := by
  have hs : s < store.symbols.length := h.length_symbols ▸ hs
  rw [symbol, List.getD_eq_getElem?_getD, List.getElem?_eq_getElem hs, Option.getD_some]

theorem symbol_mem (h : store.Intact) {s : Handle} (hs : store.Has s) :
    store.symbol s ∈ store.view.symbols :=
  h.symbols_eq ▸ List.mem_of_getElem? (h.getElem?_symbols hs)

theorem symbol_eq {s : Handle} {name : String} {kind : Kind} (hname : store.names[s]? = some name)
    (hkind : store.kinds[s]? = some kind) : store.symbol s = .ofKind kind name := by
  rw [symbol, symbols, List.getD_eq_getElem?_getD, List.getElem?_zipWith, hname, hkind]
  rfl

theorem names_view (h : store.Intact) : store.view.names = store.names.drop 2 := by
  have hall : ∀ {kinds : List Kind} {names : List String}, names.length = kinds.length →
      (∀ kind ∈ kinds, kind = .terminal ∨ kind = .nonTerminal) →
        (List.zipWith Symbol.ofKind kinds names).map Symbol.name = names := by
    intro kinds
    induction kinds with
    | nil =>
        intro names hlength _
        rw [List.length_eq_zero_iff.mp hlength]
        rfl
    | cons kind kinds ih =>
        intro names hlength hkinds
        cases names with
        | nil => cases hlength
        | cons name names =>
            obtain ⟨hkind, hkinds⟩ := List.forall_mem_cons.mp hkinds
            rw [List.zipWith_cons_cons, List.map_cons, ih (Nat.succ.inj hlength) hkinds]
            rcases hkind with rfl | rfl <;> rfl
  rw [SymbolTable.names, view, symbols, List.drop_zipWith]
  refine hall ?_ h.kinds_drop
  rw [List.length_drop, List.length_drop, h.slots]

theorem nameable (h : store.Intact) : ∀ s ∈ store.view.named, s.Nameable := by
  intro s hs
  refine ⟨?_, h.unreserved s.name (h.names_view ▸ List.mem_map_of_mem hs)⟩
  rw [view, symbols, List.drop_zipWith] at hs
  obtain ⟨i, hi⟩ := List.mem_iff_getElem?.mp hs
  obtain ⟨kind, name, hkind, -, rfl⟩ := List.getElem?_zipWith_eq_some.mp hi
  rcases h.kinds_drop kind (List.mem_of_getElem? hkind) with rfl | rfl
  · exact .inl rfl
  · exact .inr rfl

theorem wellFormed_view (h : store.Intact) : store.view.WellFormed :=
  ⟨h.names_view ▸ h.names_nodup, h.nameable⟩

/-- Different handles are different symbols. -/
theorem symbol_inj (h : store.Intact) {s t : Handle} (hs : store.Has s) (ht : store.Has t)
    (heq : store.symbol s = store.symbol t) : s = t := by
  have hnodup : store.symbols.Nodup := h.symbols_eq ▸ h.wellFormed_view.symbols_nodup
  rw [← Option.some_inj, ← h.getElem?_symbols hs, ← h.getElem?_symbols ht] at heq
  exact (List.getElem?_inj (h.length_symbols ▸ hs) hnodup).mp heq

theorem has_epsilon (h : store.Intact) : store.Has .epsilon :=
  Nat.lt_of_lt_of_le (by decide) h.two_le_length

theorem symbol_epsilon (h : store.Intact) : store.symbol .epsilon = .epsilon := by
  rw [symbol, h.symbols_eq]
  rfl

theorem has_endMarker (h : store.Intact) : store.Has .endMarker :=
  Nat.lt_of_lt_of_le (by decide) h.two_le_length

theorem symbol_endMarker (h : store.Intact) : store.symbol .endMarker = .endMarker := by
  rw [symbol, h.symbols_eq]
  rfl

theorem symbol_eq_epsilon_iff (h : store.Intact) {s : Handle} (hs : store.Has s) :
    store.symbol s = .epsilon ↔ s = .epsilon :=
  ⟨fun heq => h.symbol_inj hs h.has_epsilon (heq.trans h.symbol_epsilon.symm),
    fun heq => heq ▸ h.symbol_epsilon⟩

/-! ### The columns, read off the symbols -/

theorem map_name_symbols (h : store.Intact) : store.symbols.map Symbol.name = store.names := by
  have hview : store.view.symbols.map Symbol.name =
      [Symbol.epsilonName, Symbol.endMarkerName] ++ store.view.names := rfl
  rw [h.symbols_eq, hview, h.names_view, ← h.names_take, List.take_append_drop]

theorem map_kind_symbols (h : store.Intact) : store.symbols.map Symbol.kind = store.kinds := by
  rw [symbols, List.map_zipWith]
  simp only [Symbol.kind_ofKind]
  rw [← List.map_uncurry_zip_eq_zipWith]
  exact List.map_fst_zip (Nat.le_of_eq h.slots.symm)

theorem getElem?_names (h : store.Intact) {s : Handle} (hs : store.Has s) :
    store.names[s]? = some (store.symbol s).name := by
  rw [← h.map_name_symbols, List.getElem?_map, h.getElem?_symbols hs, Option.map_some]

theorem getElem?_kinds (h : store.Intact) {s : Handle} (hs : store.Has s) :
    store.kinds[s]? = some (store.symbol s).kind := by
  rw [← h.map_kind_symbols, List.getElem?_map, h.getElem?_symbols hs, Option.map_some]

theorem symbols_eq_map (h : store.Intact) :
    store.symbols = (List.range store.names.length).map store.symbol := by
  refine List.ext_getElem? fun i => ?_
  by_cases hi : store.Has i
  · rw [h.getElem?_symbols hi, List.getElem?_map, List.getElem?_range hi, Option.map_some]
  · have hi : store.names.length ≤ i := Nat.not_lt.mp hi
    rw [List.getElem?_eq_none (h.length_symbols ▸ hi), List.getElem?_eq_none (by simpa using hi)]

theorem map_symbol_nonTerminals (h : store.Intact) :
    store.nonTerminals.map store.symbol = store.view.nonTerminals := by
  rw [SymbolTable.nonTerminals, ← h.symbols_eq, h.symbols_eq_map, List.filter_map, nonTerminals]
  refine congrArg _ (List.filter_congr fun s hs => ?_)
  rw [h.getElem?_kinds (List.mem_range.mp hs), Function.comp_apply, Bool.eq_iff_iff,
    Symbol.isNonTerminal_iff, beq_iff_eq, Option.some_inj]

theorem symbol_of_extends (h : store.Intact) (hext : store.Extends store') {s : Handle}
    (hs : store.Has s) : store'.symbol s = store.symbol s := by
  rw [symbol_eq (getElem?_mono hext.1 (h.getElem?_names hs))
    (getElem?_mono hext.2 (h.getElem?_kinds hs)), Symbol.ofKind_kind_name]

theorem view_get? (h : store.Intact) (name : String) :
    store.view.get? name = (store.get? name).map store.symbol := by
  cases hget : store.get? name with
  | none =>
      rw [Option.map_none, SymbolTable.get?_eq_none_iff, h.names_view]
      intro hmem
      obtain ⟨i, hi⟩ := List.mem_iff_getElem?.mp hmem
      rw [List.getElem?_drop] at hi
      rw [(h.index_iff name (2 + i)).mpr ⟨Nat.le_add_right 2 i, hi⟩] at hget
      cases hget
  | some s =>
      obtain ⟨hle, hname⟩ := (h.index_iff name s).mp hget
      have hs : store.Has s := (List.getElem?_eq_some_iff.mp hname).1
      rw [Option.map_some, h.wellFormed_view.get?_eq_some_iff]
      refine ⟨List.mem_iff_getElem?.mpr ⟨s - 2, ?_⟩, ?_⟩
      · rw [view, List.getElem?_drop, Nat.add_sub_cancel' hle, h.getElem?_symbols hs]
      · rw [h.getElem?_names hs] at hname
        exact Option.some.inj hname

/-! ### Interning -/

/-- What interning does: it finds the symbol, or it appends a slot. -/
theorem intern_cases (h : store.Intact) {name : String} {kind : Kind} {s : Handle}
    (hintern : store.intern name kind = .ok (s, store')) :
    (store' = store ∧ store.Has s ∧ store.symbol s = .ofKind kind name) ∨
      (store' = store.push name kind ∧ s = store.names.length ∧
        (kind = .terminal ∨ kind = .nonTerminal) ∧
        (name ≠ Symbol.epsilonName ∧ name ≠ Symbol.endMarkerName) ∧ store.get? name = none) := by
  by_cases hkind : kind = .terminal ∨ kind = .nonTerminal
  · rw [intern_of_kind store name hkind] at hintern
    split at hintern
    · cases hintern
    · next hreserved =>
        cases hget : store.get? name with
        | none =>
            rw [hget] at hintern
            cases hintern
            exact .inr ⟨rfl, rfl, hkind, not_or.mp hreserved, rfl⟩
        | some held =>
            obtain ⟨-, hname⟩ := (h.index_iff name held).mp hget
            rw [hget] at hintern
            dsimp only at hintern
            split at hintern
            · next hheld =>
                cases hintern
                exact .inl ⟨rfl, (List.getElem?_eq_some_iff.mp hname).1, symbol_eq hname hheld⟩
            · cases hintern
  · cases kind with
    | epsilon =>
        cases hintern
        exact .inl ⟨rfl, h.has_epsilon, h.symbol_epsilon⟩
    | endMarker =>
        cases hintern
        exact .inl ⟨rfl, h.has_endMarker, h.symbol_endMarker⟩
    | terminal => exact absurd (.inl rfl) hkind
    | nonTerminal => exact absurd (.inr rfl) hkind

theorem intern (h : store.Intact) {name : String} {kind : Kind} {s : Handle}
    (hintern : store.intern name kind = .ok (s, store')) :
    store'.Intact ∧ store.Extends store' ∧ store'.Has s ∧ store'.symbol s = .ofKind kind name := by
  rcases h.intern_cases hintern with ⟨rfl, hs, hsymbol⟩ | ⟨rfl, rfl, hkind, hreserved, hnew⟩
  · exact ⟨h, .refl _, hs, hsymbol⟩
  · refine ⟨h.push hkind hreserved hnew, store.extends_push name kind, ?_, ?_⟩
    · rw [Has, SymbolStore.push, List.length_append]
      exact Nat.lt_succ_self _
    · refine symbol_eq List.getElem?_concat_length ?_
      rw [h.slots]
      exact List.getElem?_concat_length

theorem view_push (h : store.Intact) (name : String) (kind : Kind) :
    (store.push name kind).view = store.view.push (.ofKind kind name) := by
  have hle : 2 ≤ store.symbols.length := h.length_symbols ▸ h.two_le_length
  rw [view, symbols, SymbolStore.push, List.zipWith_append h.slots.symm, ← symbols,
    List.zipWith_cons_cons, List.zipWith_nil_right, List.drop_append_of_le_length hle]
  rfl

/-- Interning does to the table what it does to the store, and refuses the same. -/
theorem view_intern (h : store.Intact) (name : String) (kind : Kind) :
    (store.intern name kind).map (fun r => r.2.view) =
      store.view.intern (.ofKind kind name) := by
  by_cases hkind : kind = .terminal ∨ kind = .nonTerminal
  · have hnamed : (Symbol.ofKind kind name).isTerminal = true ∨
        (Symbol.ofKind kind name).isNonTerminal = true := by
      rcases hkind with rfl | rfl
      · exact .inl rfl
      · exact .inr rfl
    have hname : (Symbol.ofKind kind name).name = name := by
      rcases hkind with rfl | rfl <;> rfl
    rw [intern_of_kind store name hkind, SymbolTable.intern_of_kind _ hnamed, hname,
      h.view_get?]
    by_cases hreserved : name = Symbol.epsilonName ∨ name = Symbol.endMarkerName
    · rw [if_pos hreserved, if_pos hreserved]
      rfl
    · rw [if_neg hreserved, if_neg hreserved]
      cases hget : store.get? name with
      | none => exact congrArg Except.ok (h.view_push name kind)
      | some held =>
          obtain ⟨-, hslot⟩ := (h.index_iff name held).mp hget
          have hheld : store.Has held := (List.getElem?_eq_some_iff.mp hslot).1
          have hiff : store.kinds[held]? = some kind ↔
              store.symbol held = .ofKind kind name := by
            refine ⟨symbol_eq hslot, fun heq => ?_⟩
            rw [h.getElem?_kinds hheld, heq, Symbol.kind_ofKind]
          by_cases hsame : store.kinds[held]? = some kind
          · simp [hsame, hiff.mp hsame, Except.map]
          · simp [hsame, mt hiff.mpr hsame, Except.map]
  · cases kind with
    | epsilon => rfl
    | endMarker => rfl
    | terminal => exact absurd (.inl rfl) hkind
    | nonTerminal => exact absurd (.inr rfl) hkind

theorem mem_index_iff (h : store.Intact) {name : String} :
    name ∈ store.index.map Prod.fst ↔ name ∈ store.view.names := by
  rw [← isSome_lookup_iff, ← SymbolStore.get?, ← not_iff_not, ← SymbolTable.get?_eq_none_iff,
    h.view_get?, Option.map_eq_none_iff, Option.not_isSome_iff_eq_none]

theorem freshName_eq (h : store.Intact) (base : String) :
    store.freshName base = store.view.freshName base :=
  congrArg _ (SymbolTable.freshIndex_eq fun _ => h.mem_index_iff)

/-- A fresh name is never refused. -/
theorem intern_freshName (h : store.Intact) (base : String) :
    store.intern (store.freshName base) .nonTerminal =
      .ok (store.names.length, store.push (store.freshName base) .nonTerminal) := by
  have hnew : store.get? (store.freshName base) = none := by
    have hnot := SymbolTable.freshName_notMem store.view base
    rwa [← SymbolTable.get?_eq_none_iff, h.view_get?, Option.map_eq_none_iff, ← h.freshName_eq]
      at hnot
  have hunreserved := (SymbolTable.nameable_fresh store.view base).unreserved
  rw [intern_of_kind store _ (.inr rfl), if_neg (not_or.mpr (h.freshName_eq base ▸ hunreserved)),
    hnew]

end Intact

end SymbolStore

end Predictive
