import Predictive.CharSet.Break.Table
import Predictive.CharSet.Property
import Predictive.CharSet.Script.Table

/-!
# Breaks of texts

Where a text may break between clusters, words and sentences is told by the kinds of the characters
there. Each of the three has kinds of its own, with one or two names, in lower case and without
anything between their words.
-/

namespace Predictive.CharSet

open Text (Category)

def zeroWidthSpace : CharSet := single '\u200B'

def zeroWidthJoiner : CharSet := single '\u200D'

/-- The signs that end lines and paragraphs. -/
def lineSeparator : CharSet := union (single '\u0085') (range '\u2028' '\u2029')

/-- The kinds that clusters, words and sentences have alike. -/
def lineBreaks : List (List String × CharSet) :=
  [(["cr"], single '\r'), (["lf"], single '\n')]

namespace ClusterBreak

def extend : CharSet := without (union graphemeExtend emojiModifier) zeroWidthJoiner

def control : CharSet :=
  without (unions [categories [.lineSeparator, .paragraphSeparator, .control, .format],
    meet (category .unassigned) defaultIgnorable])
    (unions [ofList ['\r', '\n'], joiner, prependedMark, graphemeExtend])

def spacingMark : CharSet :=
  without (union (without (category .spacingMark) extend) (listed BreakTable.spacingLetters))
    (listed BreakTable.unspacedMarks)

def openSyllable : CharSet := listed BreakTable.hangulOpen

def kinds : List (List String × CharSet) :=
  lineBreaks ++
    [(["cn", "control"], control),
      (["ex", "extend"], extend),
      (["l"], listed BreakTable.hangulLead),
      (["lv"], openSyllable),
      (["lvt"], without (listed BreakTable.hangulSyllables) openSyllable),
      (["pp", "prepend"], union prependedMark (listed BreakTable.prependedLetters)),
      (["ri", "regionalindicator"], regionalIndicator),
      (["sm", "spacingmark"], spacingMark),
      (["t"], listed BreakTable.hangulTail),
      (["v"], listed BreakTable.hangulVowel),
      (["zwj"], zeroWidthJoiner)]

end ClusterBreak

namespace WordBreak

def extend : CharSet :=
  without (unions [graphemeExtend, category .spacingMark, emojiModifier]) zeroWidthJoiner

def format : CharSet :=
  without (category .format) (unions [extend, zeroWidthSpace, zeroWidthJoiner])

/-- The scripts that are written without spaces. -/
def unspaced : CharSet :=
  unions ([ScriptTable.thai, ScriptTable.lao, ScriptTable.myanmar, ScriptTable.khmer,
    ScriptTable.taiLe, ScriptTable.newTaiLue, ScriptTable.taiTham, ScriptTable.taiViet,
    ScriptTable.ahom].map listed)

def katakana : CharSet := listed BreakTable.katakana

def hebrewLetter : CharSet := listed BreakTable.hebrewLetters

def letter : CharSet :=
  union (listed BreakTable.wordSigns)
    (without alphabetic (unions [ideographic, katakana, unspaced, listed ScriptTable.hiragana,
      extend, hebrewLetter, category .decimalNumber]))

def kinds : List (List String × CharSet) :=
  lineBreaks ++
    [(["dq", "doublequote"], single '\x22'),
      (["ex", "extendnumlet"], listed BreakTable.wordConnector),
      (["extend"], extend),
      (["fo", "format"], format),
      (["hl", "hebrewletter"], hebrewLetter),
      (["ka", "katakana"], katakana),
      (["le", "aletter"], letter),
      (["mb", "midnumlet"], listed BreakTable.midBoth),
      (["ml", "midletter"], listed BreakTable.midLetter),
      (["mn", "midnum"], listed BreakTable.midNumber),
      (["nl", "newline"], union (range '\x0B' '\x0C') lineSeparator),
      (["nu", "numeric"], union (category .decimalNumber) (single '\u066B')),
      (["ri", "regionalindicator"], regionalIndicator),
      (["sq", "singlequote"], single '\x27'),
      (["wsegspace"], listed BreakTable.wordSpace),
      (["zwj"], zeroWidthJoiner)]

end WordBreak

namespace SentenceBreak

def lower : CharSet :=
  union (single 'ʕ')
    (without lowercase (union graphemeExtend (listed BreakTable.georgianLower)))

def upper : CharSet :=
  without (union uppercase (category .titleCase)) (listed BreakTable.georgianUpper)

def extend : CharSet := unions [graphemeExtend, category .spacingMark, zeroWidthJoiner]

def fullStop : CharSet := listed BreakTable.fullStop

def kinds : List (List String × CharSet) :=
  lineBreaks ++
    [(["at", "aterm"], fullStop),
      (["cl", "close"],
        union (categories [.opening, .closing, .initialQuote, .finalQuote])
          (listed BreakTable.closingSigns)),
      (["ex", "extend"], extend),
      (["fo", "format"], without (category .format) (union graphemeExtend zeroWidthJoiner)),
      (["le", "oletter"],
        union (single '\u05F3')
          (without alphabetic (unions [lower, upper, graphemeExtend, category .spacingMark]))),
      (["lo", "lower"], lower),
      (["nu", "numeric"], union (category .decimalNumber) (range '\u066B' '\u066C')),
      (["sc", "scontinue"], listed BreakTable.sentenceContinue),
      (["se", "sep"], lineSeparator),
      (["sp"], without blank (union lineSeparator (ofList ['\n', '\r']))),
      (["st", "sterm"], without sentenceTerminal fullStop),
      (["up", "upper"], upper)]

end SentenceBreak

end Predictive.CharSet
