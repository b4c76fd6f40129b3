import Predictive.Grammar.Factoring
import Predictive.Store.Reading
import Predictive.Store.Stages

/-!
# Operations on a grammar

An `Edit` is one operation with its arguments, which refer to symbols by `σ`: a store takes handles,
a grammar the symbols themselves. What an edit leaves behind is a grammar in any case. An operation
that is refused leaves what was there, and a text that is refused half way leaves the symbols before
the refused one.
-/

namespace Predictive

inductive Edit (σ : Type)
  | addTerminal (name : String)
  | addNonTerminal (name : String)
  | fresh (base : String)
  | declare (left : σ)
  | add (left : σ) (sequence : List σ)
  | readSequence (lexing : Lexing) (text : List Char)
  | withoutProductions
  | factor
  | factorFully
  | eliminate
deriving DecidableEq

def Edit.map {σ τ : Type} (f : σ → τ) : Edit σ → Edit τ
  | addTerminal name => addTerminal name
  | addNonTerminal name => addNonTerminal name
  | fresh base => fresh base
  | declare left => declare (f left)
  | add left sequence => add (f left) (sequence.map f)
  | readSequence lexing text => readSequence lexing text
  | withoutProductions => withoutProductions
  | factor => factor
  | factorFully => factorFully
  | eliminate => eliminate

namespace Grammar

/-- The grammar that an edit leaves behind, refused or not. -/
def edit (g : Grammar) : Edit Symbol → Grammar
  | .addTerminal name => (g.intern (.terminal name)).toOption.getD g
  | .addNonTerminal name => (g.intern (.nonTerminal name)).toOption.getD g
  | .fresh base => (g.fresh base).2
  | .declare left => g.declare left
  | .add left sequence => g.add left sequence
  | .readSequence lexing text => (g.readSequence lexing text).1
  | .withoutProductions => g.withoutProductions
  | .factor => g.factor
  | .factorFully => g.factorFully.value
  | .eliminate => (g.eliminate.toOption.map Prod.fst).getD g

def edited (g : Grammar) (edits : List (Edit Symbol)) : Grammar :=
  edits.foldl edit g

end Grammar

namespace GrammarStore

/-- What a request for one symbol leaves behind and hands out. -/
def answered (g : GrammarStore) (r : Except SymbolError (Handle × GrammarStore)) :
    GrammarStore × List Handle :=
  match r with
  | .ok (h, g') => (g', [h])
  | .error _ => (g, [])

/-- The store that an edit leaves behind, refused or not, and the handles that it hands out. -/
def edit (g : GrammarStore) : Edit Handle → GrammarStore × List Handle
  | .addTerminal name => g.answered (g.intern name .terminal)
  | .addNonTerminal name => g.answered (g.intern name .nonTerminal)
  | .fresh base => g.answered (g.fresh base)
  | .declare left => (g.declare left, [])
  | .add left sequence => (g.add left sequence, [])
  | .readSequence lexing text =>
    let r := g.readSequence lexing text
    (r.1, r.2.toOption.getD [])
  | .withoutProductions => (g.deriveEmpty, [])
  | .factor => ((g.factorPass.toOption.map Prod.fst).getD g, [])
  | .factorFully => (g.factorFully.toOption.getD g, [])
  | .eliminate => (g.eliminate.toOption.getD g, [])

def edited (g : GrammarStore) (edits : List (Edit Handle)) : GrammarStore :=
  edits.foldl (fun g e => (g.edit e).1) g

end GrammarStore

end Predictive
