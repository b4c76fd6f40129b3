import Predictive.Association
import Predictive.Symbol.Table

/-!
# Symbol stores

In memory a symbol is a handle: the position of a slot that has its name and its kind. The names and
the kinds are kept in two columns, and an index gives the slot of a name. The first two slots are
those of `ε` and `$`; no name leads to them.

`intern` looks a name up in the index and appends a slot when it finds none, so a handle is good for
every later state of the store. `symbols` reads off what the slots stand for.
-/

namespace Predictive

/-- The position of a symbol in a store. -/
abbrev Handle := Nat

namespace Handle

def epsilon : Handle := 0

def endMarker : Handle := 1

end Handle

structure SymbolStore where
  names : List String
  kinds : List Kind
  index : List (String × Handle)
deriving DecidableEq

namespace SymbolStore

def empty : SymbolStore :=
  ⟨[Symbol.epsilonName, Symbol.endMarkerName], [.epsilon, .endMarker], []⟩

def get? (store : SymbolStore) (name : String) : Option Handle :=
  store.index.lookup name

/-- Appends a slot. -/
def push (store : SymbolStore) (name : String) (kind : Kind) : SymbolStore :=
  ⟨store.names ++ [name], store.kinds ++ [kind],
    insertKey name store.names.length store.index⟩

/-- The handle of a name, in a new slot when the name is new. A reserved name is refused, and so is
a name in use for another kind. -/
def intern (store : SymbolStore) (name : String) (kind : Kind) :
    Except SymbolError (Handle × SymbolStore) :=
  match kind with
  | .epsilon => .ok (.epsilon, store)
  | .endMarker => .ok (.endMarker, store)
  | .terminal | .nonTerminal =>
    if name = Symbol.epsilonName ∨ name = Symbol.endMarkerName then .error (.reserved name)
    else
      match store.get? name with
      | some h =>
        if store.kinds[h]? = some kind then .ok (h, store) else .error (.conflictingKind name)
      | none => .ok (store.names.length, store.push name kind)

/-- The first candidate for `base` that the index does not have. -/
def freshName (store : SymbolStore) (base : String) : String :=
  SymbolTable.candidate base (SymbolTable.freshIndex (store.index.map Prod.fst) base)

/-- The handles of the non-terminals, in the order of the slots. -/
def nonTerminals (store : SymbolStore) : List Handle :=
  (List.range store.names.length).filter fun h => store.kinds[h]? == some .nonTerminal

/-- What the slots stand for. -/
def symbols (store : SymbolStore) : List Symbol :=
  List.zipWith Symbol.ofKind store.kinds store.names

/-- What a handle stands for. A handle beyond the slots stands for nothing; `ε` is put in. -/
def symbol (store : SymbolStore) (h : Handle) : Symbol :=
  store.symbols.getD h .epsilon

/-- The table that a store stands for. -/
def view (store : SymbolStore) : SymbolTable :=
  ⟨store.symbols.drop 2⟩

end SymbolStore

end Predictive
