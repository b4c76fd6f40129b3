import Predictive.Text.Blank
import Predictive.Text.CaseFold
import Predictive.Text.Category

/-!
# Sets of characters

A set of characters is put together from ranges, categories, the blanks and listed runs.
`CharSet.has` says which characters are in it; each way of putting sets together has one equation.
-/

namespace Predictive

inductive CharSet
  | range (first last : Char)
  | category (category : Text.Category)
  /-- The code points of runs, which are in ascending order. -/
  | listed (runs : List Text.CodeRun)
  | blank
  | none
  | union (a b : CharSet)
  | meet (a b : CharSet)
  | complement (a : CharSet)
  /-- The characters that are in a set, or would be in it in another case. -/
  | anyCase (a : CharSet)

namespace CharSet

def has : CharSet → Char → Bool
  | range first last, c => first.toNat ≤ c.toNat && c.toNat ≤ last.toNat
  | category k, c => k.has c.toNat
  | listed runs, c => runs.any fun r => r.has c.toNat
  | blank, c => Text.isBlank c
  | none, _ => false
  | union a b, c => a.has c || b.has c
  | meet a b, c => a.has c && b.has c
  | complement a, c => !a.has c
  | anyCase a, c => (Text.caseVariants c).any a.has

def single (c : Char) : CharSet := range c c

def unions (sets : List CharSet) : CharSet := sets.foldr union none

def ofList (chars : List Char) : CharSet := unions (chars.map single)

def categories (all : List Text.Category) : CharSet := unions (all.map category)

def any : CharSet := complement none

def without (a b : CharSet) : CharSet := meet a (complement b)

/-- What is in one of two sets but not in both. -/
def apart (a b : CharSet) : CharSet := union (without a b) (without b a)

def ascii : CharSet := range '\x00' '\x7F'

def asciiDigit : CharSet := range '0' '9'

def asciiLower : CharSet := range 'a' 'z'

def asciiUpper : CharSet := range 'A' 'Z'

def asciiLetter : CharSet := union asciiUpper asciiLower

def asciiAlphanumeric : CharSet := union asciiLetter asciiDigit

def asciiWord : CharSet := union asciiAlphanumeric (single '_')

def asciiBlank : CharSet := union (range '\t' '\r') (single ' ')

def digit : CharSet := category .decimalNumber

/-- The letters in circles and squares. They are no letters by their category. -/
def enclosedLetters : CharSet :=
  unions [range 'Ⓐ' 'ⓩ', range '🄰' '🅉', range '🅐' '🅩', range '🅰' '🆉']

/-- The characters of words: letters, marks, digits, connectors and the two joiners. -/
def word : CharSet :=
  unions [categories (Text.Category.letters ++ Text.Category.marks),
    categories [.decimalNumber, .letterNumber, .connector], range '\u200C' '\u200D',
    enclosedLetters]

theorem has_single (c d : Char) : (single c).has d = true ↔ d = c := by
  simp only [single, has, Bool.and_eq_true, decide_eq_true_eq]
  constructor
  · intro h
    exact Char.toNat_inj.mp (by omega)
  · rintro rfl
    exact ⟨Nat.le_refl _, Nat.le_refl _⟩

theorem has_unions (sets : List CharSet) (c : Char) :
    (unions sets).has c = sets.any fun a => a.has c := by
  induction sets with
  | nil => rfl
  | cons a sets ih =>
      rw [List.any_cons, ← ih]
      rfl

end CharSet

end Predictive
