import Predictive.CharSet.Basic
import Predictive.CharSet.Property.Table
import Predictive.Text.Shapeless

/-!
# Properties of characters

The sets of characters with a property that is either there or not. Most follow from the general
categories but for some characters. `CharSet.property?` finds a set by the name of its property, in
lower case and without anything between its words.
-/

namespace Predictive.CharSet

open Text (Category)

def alphabetic : CharSet :=
  union (categories (Category.letters ++ [.letterNumber])) (listed PropertyTable.otherAlphabetic)

/-- Letters of the alphabet, and numbers of every kind. -/
def alphanumeric : CharSet := union alphabetic (categories Category.numbers)

def lowercase : CharSet := union (category .lowerCase) (listed PropertyTable.otherLowercase)

def uppercase : CharSet := union (category .upperCase) (listed PropertyTable.otherUppercase)

def cased : CharSet := unions [lowercase, uppercase, category .titleCase]

/-- The characters that the case of a word does not look at. -/
def caseIgnorable : CharSet :=
  union (categories [.nonspacingMark, .enclosingMark, .format, .modifierLetter, .modifierSymbol])
    (listed PropertyTable.caseIgnorableSigns)

def changedByLower : CharSet :=
  without (union uppercase (category .titleCase)) (listed PropertyTable.withoutLower)

def changedByUpper : CharSet :=
  without (union (categories [.lowerCase, .titleCase]) (listed PropertyTable.upperSigns))
    (listed PropertyTable.withoutUpper)

def changedByTitle : CharSet :=
  without (union changedByUpper (listed PropertyTable.titleSigns))
    (listed PropertyTable.withoutTitle)

def changedByFolding : CharSet :=
  without (union changedByLower (listed PropertyTable.foldedSigns))
    (listed PropertyTable.withoutFolding)

def math : CharSet := union (category .mathSymbol) (listed PropertyTable.otherMath)

def otherGraphemeExtend : CharSet :=
  union (listed Text.extendingMarks) (listed PropertyTable.otherGraphemeExtend)

/-- The characters that extend the character before them. -/
def graphemeExtend : CharSet :=
  union (categories [.nonspacingMark, .enclosingMark]) otherGraphemeExtend

/-- The characters that stand on their own. -/
def graphemeBase : CharSet :=
  complement (union graphemeExtend
    (categories (Category.others ++ [.lineSeparator, .paragraphSeparator])))

def patternBlank : CharSet := listed PropertyTable.patternWhiteSpace

def patternSign : CharSet := union (listed PropertyTable.patternSyntax) patternBlank

/-- The characters that a name may start with. -/
def idStart : CharSet :=
  without (union (categories (Category.letters ++ [.letterNumber]))
    (listed PropertyTable.otherIdStart)) patternSign

def idContinue : CharSet :=
  without (unions [idStart, categories [.nonspacingMark, .spacingMark, .decimalNumber, .connector],
    listed PropertyTable.otherIdContinue]) patternSign

def joiner : CharSet := range '\u200C' '\u200D'

def prependedMark : CharSet := listed PropertyTable.prependedMark

def variationSelector : CharSet := listed PropertyTable.variationSelector

/-- The characters that are not shown where they are not known. -/
def defaultIgnorable : CharSet :=
  without (unions [listed PropertyTable.otherDefaultIgnorable, category .format, variationSelector])
    (unions [prependedMark, range '\uFFF9' '\uFFFB', range '𓐰' '𓑀'])

def emoji : CharSet := listed PropertyTable.emoji

def emojiModifier : CharSet := range '🏻' '🏿'

def regionalIndicator : CharSet := range '🇦' '🇿'

def pictographic : CharSet :=
  without (union emoji (listed PropertyTable.otherPictographic))
    (listed PropertyTable.notPictographic)

def ideographic : CharSet := listed PropertyTable.ideographic

def sentenceTerminal : CharSet := listed PropertyTable.sentenceTerminal

def idCompatMathStart : CharSet := listed PropertyTable.idCompatMathStart

def asciiHexDigit : CharSet := unions [asciiDigit, range 'A' 'F', range 'a' 'f']

/-- The properties with their names, and the characters that have them. -/
def properties : List (List String × CharSet) :=
  [(["ahex", "asciihexdigit"], asciiHexDigit),
    (["alpha", "alphabetic"], alphabetic),
    (["bidic", "bidicontrol"], listed PropertyTable.bidiControl),
    (["bidim", "bidimirrored"], listed PropertyTable.bidiMirrored),
    (["cased"], cased),
    (["ci", "caseignorable"], caseIgnorable),
    (["cwcf", "changeswhencasefolded"], changedByFolding),
    (["cwcm", "changeswhencasemapped"], unions [changedByLower, changedByUpper, changedByTitle]),
    (["cwl", "changeswhenlowercased"], changedByLower),
    (["cwt", "changeswhentitlecased"], changedByTitle),
    (["cwu", "changeswhenuppercased"], changedByUpper),
    (["dash"], union (category .dash) (listed PropertyTable.dashSigns)),
    (["dep", "deprecated"], listed PropertyTable.deprecated),
    (["di", "defaultignorablecodepoint"], defaultIgnorable),
    (["dia", "diacritic"], listed PropertyTable.diacritic),
    (["ebase", "emojimodifierbase"], listed PropertyTable.emojiModifierBase),
    (["ecomp", "emojicomponent"], listed PropertyTable.emojiComponent),
    (["emod", "emojimodifier"], emojiModifier),
    (["emoji"], emoji),
    (["epres", "emojipresentation"], listed PropertyTable.emojiPresentation),
    (["ext", "extender"], listed PropertyTable.extender),
    (["extpict", "extendedpictographic"], pictographic),
    (["grbase", "graphemebase"], graphemeBase),
    (["grext", "graphemeextend"], graphemeExtend),
    (["grlink", "graphemelink"], listed PropertyTable.graphemeLink),
    (["hex", "hexdigit"],
      unions [asciiHexDigit, range '０' '９', range 'Ａ' 'Ｆ', range 'ａ' 'ｆ']),
    (["hyphen"], listed PropertyTable.hyphen),
    (["idc", "idcontinue"], idContinue),
    (["idcompatmathcontinue"],
      union idCompatMathStart (listed PropertyTable.idCompatMathContinue)),
    (["idcompatmathstart"], idCompatMathStart),
    (["ideo", "ideographic"], ideographic),
    (["ids", "idstart"], idStart),
    (["idsb", "idsbinaryoperator"],
      unions [range '⿰' '⿱', range '⿴' '⿽', single '㇯']),
    (["idst", "idstrinaryoperator"], range '⿲' '⿳'),
    (["idsu", "idsunaryoperator"], range '⿾' '⿿'),
    (["joinc", "joincontrol"], joiner),
    (["loe", "logicalorderexception"], listed PropertyTable.logicalOrderException),
    (["lower", "lowercase"], lowercase),
    (["math"], math),
    (["mcm", "modifiercombiningmark"], listed PropertyTable.modifierCombiningMark),
    (["nchar", "noncharactercodepoint"], listed PropertyTable.noncharacter),
    (["oalpha", "otheralphabetic"], listed PropertyTable.otherAlphabetic),
    (["odi", "otherdefaultignorablecodepoint"], listed PropertyTable.otherDefaultIgnorable),
    (["ogrext", "othergraphemeextend"], otherGraphemeExtend),
    (["oidc", "otheridcontinue"], listed PropertyTable.otherIdContinue),
    (["oids", "otheridstart"], listed PropertyTable.otherIdStart),
    (["olower", "otherlowercase"], listed PropertyTable.otherLowercase),
    (["omath", "othermath"], listed PropertyTable.otherMath),
    (["oupper", "otheruppercase"], listed PropertyTable.otherUppercase),
    (["patsyn", "patternsyntax"], listed PropertyTable.patternSyntax),
    (["patws", "patternwhitespace"], patternBlank),
    (["pcm", "prependedconcatenationmark"], prependedMark),
    (["qmark", "quotationmark"], listed PropertyTable.quotationMark),
    (["radical"], listed PropertyTable.radical),
    (["ri", "regionalindicator"], regionalIndicator),
    (["sd", "softdotted"], listed PropertyTable.softDotted),
    (["sterm", "sentenceterminal"], sentenceTerminal),
    (["term", "terminalpunctuation"],
      union sentenceTerminal (listed PropertyTable.otherTerminal)),
    (["uideo", "unifiedideograph"], listed PropertyTable.unifiedIdeograph),
    (["upper", "uppercase"], uppercase),
    (["vs", "variationselector"], variationSelector),
    (["wspace", "whitespace", "space"], blank),
    (["xidc", "xidcontinue"], without idContinue (listed PropertyTable.notIdContinue)),
    (["xids", "xidstart"], without idStart (listed PropertyTable.notIdStart))]

/-- The characters with a property, by one of its names. -/
def property? (name : String) : Option CharSet :=
  (properties.find? fun entry => entry.1.contains name).map Prod.snd

end Predictive.CharSet
