import Predictive.CharSet.Age
import Predictive.CharSet.Break
import Predictive.CharSet.Script
import Predictive.Pattern.Fault

/-!
# Properties in written patterns

A property is written by its name, or by its name and its value. Case, blanks, hyphens, low lines
and the word `is` in front do not matter. A name alone stands for a property that a character has
or has not, for a category, or for a script. Of the properties with values only some can be asked
for; the others are known by name, but none of their values is.
-/

namespace Predictive.Pattern

open CharSet (Age Script)

/-- A name in lower case, without signs between its words and the word that only says that it is a
property. The name `isc` is not the name `c` with that word. -/
def plainName (name : List Char) : String :=
  let lower := name.map Char.toLower
  let plain := fun chars : List Char =>
    String.ofList (chars.filter fun c => c.toNat < 0x80 && c != ' ' && c != '_' && c != '-')
  if ['i', 's'].isPrefixOf lower then
    let rest := plain (lower.drop 2)
    if rest = "c" then "isc" else rest
  else plain lower

/-- The characters of a category. There are no surrogates among characters. -/
def categorySet? (name : String) : Option CharSet :=
  match name with
  | "any" => some .any
  | "ascii" => some .ascii
  | "assigned" => some (.complement (.category .unassigned))
  | "cs" | "surrogate" => none
  | _ => (Text.Category.named? name).map CharSet.categories

def breakSet? (kinds : List (List String × CharSet)) (name : String) : Option CharSet :=
  (kinds.find? fun kind => kind.1.contains name).map Prod.snd

/-- The properties with values that can be asked for, with their names and the characters with a
value. -/
def valuedProperties : List (List String × (String → Option CharSet)) :=
  [(["gc", "generalcategory"], categorySet?),
    (["sc", "script"], fun value => (Script.named? value).map Script.set),
    (["scx", "scriptextensions"], fun value => (Script.named? value).map Script.wideSet),
    (["age"], Age.set?),
    (["gcb", "graphemeclusterbreak"], breakSet? CharSet.ClusterBreak.kinds),
    (["wb", "wordbreak"], breakSet? CharSet.WordBreak.kinds),
    (["sb", "sentencebreak"], breakSet? CharSet.SentenceBreak.kinds)]

/-- The names of the other properties that are known. -/
def otherProperties : List String :=
  ["bc", "bidiclass", "bidimirroringglyph", "bidipairedbracket", "bidipairedbrackettype", "blk",
    "block", "bmg", "bpb", "bpt", "canonicalcombiningclass", "casefolding", "ccc", "ce", "cf",
    "changeswhennfkccasefolded", "cjkaccountingnumeric", "cjkcompatibilityvariant", "cjkiicore",
    "cjkirggsource", "cjkirghsource", "cjkirgjsource", "cjkirgkpsource", "cjkirgksource",
    "cjkirgmsource", "cjkirgssource", "cjkirgtsource", "cjkirguksource", "cjkirgusource",
    "cjkirgvsource", "cjkothernumeric", "cjkprimarynumeric", "cjkrsunicode", "compex",
    "compositionexclusion", "cwkcf", "decompositionmapping", "decompositiontype", "dm", "dt", "ea",
    "eastasianwidth", "equideo", "equivalentunifiedideograph", "expandsonnfc", "expandsonnfd",
    "expandsonnfkc", "expandsonnfkd", "fcnfkc", "fcnfkcclosure", "fullcompositionexclusion",
    "hangulsyllabletype", "hst", "incb", "indicconjunctbreak", "indicpositionalcategory",
    "indicsyllabiccategory", "inpc", "insc", "isc", "jamoshortname", "jg", "joininggroup",
    "joiningtype", "jsn", "jt", "kaccountingnumeric", "kcompatibilityvariant", "kehcat", "kehdesc",
    "kehhg", "kehifao", "kehjsesh", "kehnomirror", "kehnorotate", "kiicore", "kirggsource",
    "kirghsource", "kirgjsource", "kirgkpsource", "kirgksource", "kirgmsource", "kirgssource",
    "kirgtsource", "kirguksource", "kirgusource", "kirgvsource", "kothernumeric",
    "kprimarynumeric", "krsunicode", "lb", "lc", "linebreak", "lowercasemapping", "na", "na1",
    "name", "namealias", "nfcqc", "nfcquickcheck", "nfdqc", "nfdquickcheck", "nfkccasefold",
    "nfkccf", "nfkcqc", "nfkcquickcheck", "nfkcscf", "nfkcsimplecasefold", "nfkdqc",
    "nfkdquickcheck", "nt", "numerictype", "numericvalue", "nv", "ocomment", "scf", "sfc",
    "simplecasefolding", "simplelowercasemapping", "simpletitlecasemapping",
    "simpleuppercasemapping", "slc", "stc", "suc", "tc", "titlecasemapping", "uc", "unicode1name",
    "unicoderadicalstroke", "uppercasemapping", "urs", "verticalorientation", "vo", "xonfc",
    "xonfd", "xonfkc", "xonfkd"]

/-- The names of values that no character has. -/
def emptyValues : List String :=
  ["cs", "surrogate", "zzzz", "unknown", "hrkt", "katakanaorhiragana"]

/-- The characters that a name alone stands for. -/
def setOfName (name : String) : Except Cause CharSet :=
  match CharSet.property? name, categorySet? name, Script.named? name with
  | some set, _, _ => .ok set
  | none, some set, _ => .ok set
  | none, none, some script => .ok script.set
  | none, none, none =>
    .error (if emptyValues.contains name then .valueUnknown else .propertyUnknown)

/-- The characters with a value of a property. -/
def setOfValue (name value : String) : Except Cause CharSet :=
  match valuedProperties.find? fun entry => entry.1.contains name with
  | some (_, set?) => (set? value).elim (.error .valueUnknown) .ok
  | none =>
    let known := (CharSet.property? name).isSome || otherProperties.contains name
    .error (if known then .valueUnknown else .propertyUnknown)

/-- The characters with a property. -/
def Property.set (property : Property) : Except Cause CharSet :=
  match property.value? with
  | none => setOfName (plainName property.name)
  | some value => setOfValue (plainName property.name) (plainName value)

end Predictive.Pattern
