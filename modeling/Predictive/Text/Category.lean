import Predictive.Text.Category.Table

/-!
# The general category of a character

Every code point has one general category: the one whose table lists it, or else it is unassigned.
A category has a short name, and one or two long ones; some names stand for several categories.
-/

namespace Predictive.Text

inductive Category
  | upperCase
  | lowerCase
  | titleCase
  | modifierLetter
  | otherLetter
  | nonspacingMark
  | spacingMark
  | enclosingMark
  | decimalNumber
  | letterNumber
  | otherNumber
  | connector
  | dash
  | opening
  | closing
  | initialQuote
  | finalQuote
  | otherPunctuation
  | mathSymbol
  | currencySymbol
  | modifierSymbol
  | otherSymbol
  | spaceSeparator
  | lineSeparator
  | paragraphSeparator
  | control
  | format
  | surrogate
  | privateUse
  | unassigned
deriving DecidableEq

namespace Category

/-- The code points that the table of a category lists. -/
def runs : Category → List CodeRun
  | upperCase => CategoryTable.upperCase
  | lowerCase => CategoryTable.lowerCase
  | titleCase => CategoryTable.titleCase
  | modifierLetter => CategoryTable.modifierLetter
  | otherLetter => CategoryTable.otherLetter
  | nonspacingMark => CategoryTable.nonspacingMark
  | spacingMark => CategoryTable.spacingMark
  | enclosingMark => CategoryTable.enclosingMark
  | decimalNumber => CategoryTable.decimalNumber
  | letterNumber => CategoryTable.letterNumber
  | otherNumber => CategoryTable.otherNumber
  | connector => CategoryTable.connector
  | dash => CategoryTable.dash
  | opening => CategoryTable.opening
  | closing => CategoryTable.closing
  | initialQuote => CategoryTable.initialQuote
  | finalQuote => CategoryTable.finalQuote
  | otherPunctuation => CategoryTable.otherPunctuation
  | mathSymbol => CategoryTable.mathSymbol
  | currencySymbol => CategoryTable.currencySymbol
  | modifierSymbol => CategoryTable.modifierSymbol
  | otherSymbol => CategoryTable.otherSymbol
  | spaceSeparator => CategoryTable.spaceSeparator
  | lineSeparator => CategoryTable.lineSeparator
  | paragraphSeparator => CategoryTable.paragraphSeparator
  | control => CategoryTable.control
  | format => CategoryTable.format
  | surrogate => CategoryTable.surrogate
  | privateUse => CategoryTable.privateUse
  | unassigned => []

def casedLetters : List Category := [upperCase, lowerCase, titleCase]

def letters : List Category := casedLetters ++ [modifierLetter, otherLetter]

def marks : List Category := [nonspacingMark, spacingMark, enclosingMark]

def numbers : List Category := [decimalNumber, letterNumber, otherNumber]

def punctuation : List Category :=
  [connector, dash, opening, closing, initialQuote, finalQuote, otherPunctuation]

def symbols : List Category := [mathSymbol, currencySymbol, modifierSymbol, otherSymbol]

def separators : List Category := [spaceSeparator, lineSeparator, paragraphSeparator]

def others : List Category := [control, format, surrogate, privateUse, unassigned]

/-- The categories with a table of their own. -/
def listed : List Category :=
  letters ++ marks ++ numbers ++ punctuation ++ symbols ++ separators ++
    [control, format, surrogate, privateUse]

def lists (category : Category) (code : Nat) : Bool :=
  category.runs.any fun r => r.has code

def has (category : Category) (code : Nat) : Bool :=
  if category = unassigned then !listed.any fun c => c.lists code else category.lists code

/-- The names of the categories, in lower case and without anything between their words. -/
def names : List (List String × List Category) :=
  [(["l", "letter"], letters), (["lc", "casedletter"], casedLetters),
    (["lu", "uppercaseletter"], [upperCase]), (["ll", "lowercaseletter"], [lowerCase]),
    (["lt", "titlecaseletter"], [titleCase]), (["lm", "modifierletter"], [modifierLetter]),
    (["lo", "otherletter"], [otherLetter]), (["m", "mark", "combiningmark"], marks),
    (["mn", "nonspacingmark"], [nonspacingMark]), (["mc", "spacingmark"], [spacingMark]),
    (["me", "enclosingmark"], [enclosingMark]), (["n", "number"], numbers),
    (["nd", "decimalnumber", "digit"], [decimalNumber]), (["nl", "letternumber"], [letterNumber]),
    (["no", "othernumber"], [otherNumber]), (["p", "punctuation", "punct"], punctuation),
    (["pc", "connectorpunctuation"], [connector]), (["pd", "dashpunctuation"], [dash]),
    (["ps", "openpunctuation"], [opening]), (["pe", "closepunctuation"], [closing]),
    (["pi", "initialpunctuation"], [initialQuote]), (["pf", "finalpunctuation"], [finalQuote]),
    (["po", "otherpunctuation"], [otherPunctuation]), (["s", "symbol"], symbols),
    (["sm", "mathsymbol"], [mathSymbol]), (["sc", "currencysymbol"], [currencySymbol]),
    (["sk", "modifiersymbol"], [modifierSymbol]), (["so", "othersymbol"], [otherSymbol]),
    (["z", "separator"], separators), (["zs", "spaceseparator"], [spaceSeparator]),
    (["zl", "lineseparator"], [lineSeparator]),
    (["zp", "paragraphseparator"], [paragraphSeparator]), (["c", "other"], others),
    (["cc", "control", "cntrl"], [control]), (["cf", "format"], [format]),
    (["cs", "surrogate"], [surrogate]), (["co", "privateuse"], [privateUse]),
    (["cn", "unassigned"], [unassigned])]

/-- The categories that a name stands for. -/
def named? (name : String) : Option (List Category) :=
  (names.find? fun entry => entry.1.contains name).map Prod.snd

end Category

/-- Whether a character has one of some categories. -/
def inCategories (categories : List Category) (c : Char) : Bool :=
  categories.any fun category => category.has c.toNat

end Predictive.Text
