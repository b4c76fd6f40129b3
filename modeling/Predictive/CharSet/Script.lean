import Predictive.CharSet.Basic
import Predictive.CharSet.Script.Shared
import Predictive.CharSet.Script.Table

/-!
# Scripts

A script has a code of four letters and one or two names. Its characters are those that belong to
it alone. In the wide sense they are also those that it shares with others; then nothing that is
shared counts as common to all scripts, or as inherited.
-/

namespace Predictive.CharSet

/-- A script with its names in lower case and without anything between their words. The first one
is its code. -/
structure Script where
  names : List String
  runs : List Text.CodeRun

namespace Script

open ScriptTable

def all : List Script :=
  [⟨["adlm", "adlam"], adlam⟩, ⟨["aghb", "caucasianalbanian"], caucasianAlbanian⟩, ⟨["ahom"], ahom⟩,
    ⟨["arab", "arabic"], arabic⟩, ⟨["armi", "imperialaramaic"], imperialAramaic⟩,
    ⟨["armn", "armenian"], armenian⟩, ⟨["avst", "avestan"], avestan⟩,
    ⟨["bali", "balinese"], balinese⟩, ⟨["bamu", "bamum"], bamum⟩, ⟨["bass", "bassavah"], bassaVah⟩,
    ⟨["batk", "batak"], batak⟩, ⟨["beng", "bengali"], bengali⟩, ⟨["berf", "beriaerfe"], beriaErfe⟩,
    ⟨["bhks", "bhaiksuki"], bhaiksuki⟩, ⟨["bopo", "bopomofo"], bopomofo⟩,
    ⟨["brah", "brahmi"], brahmi⟩, ⟨["brai", "braille"], braille⟩, ⟨["bugi", "buginese"], buginese⟩,
    ⟨["buhd", "buhid"], buhid⟩, ⟨["cakm", "chakma"], chakma⟩,
    ⟨["cans", "canadianaboriginal"], canadianAboriginal⟩, ⟨["cari", "carian"], carian⟩,
    ⟨["cham"], cham⟩, ⟨["cher", "cherokee"], cherokee⟩, ⟨["chrs", "chorasmian"], chorasmian⟩,
    ⟨["copt", "coptic", "qaac"], coptic⟩, ⟨["cpmn", "cyprominoan"], cyproMinoan⟩,
    ⟨["cprt", "cypriot"], cypriot⟩, ⟨["cyrl", "cyrillic"], cyrillic⟩,
    ⟨["deva", "devanagari"], devanagari⟩, ⟨["diak", "divesakuru"], divesAkuru⟩,
    ⟨["dogr", "dogra"], dogra⟩, ⟨["dsrt", "deseret"], deseret⟩, ⟨["dupl", "duployan"], duployan⟩,
    ⟨["egyp", "egyptianhieroglyphs"], egyptianHieroglyphs⟩, ⟨["elba", "elbasan"], elbasan⟩,
    ⟨["elym", "elymaic"], elymaic⟩, ⟨["ethi", "ethiopic"], ethiopic⟩, ⟨["gara", "garay"], garay⟩,
    ⟨["geor", "georgian"], georgian⟩, ⟨["glag", "glagolitic"], glagolitic⟩,
    ⟨["gong", "gunjalagondi"], gunjalaGondi⟩, ⟨["gonm", "masaramgondi"], masaramGondi⟩,
    ⟨["goth", "gothic"], gothic⟩, ⟨["gran", "grantha"], grantha⟩, ⟨["grek", "greek"], greek⟩,
    ⟨["gujr", "gujarati"], gujarati⟩, ⟨["gukh", "gurungkhema"], gurungKhema⟩,
    ⟨["guru", "gurmukhi"], gurmukhi⟩, ⟨["hang", "hangul"], hangul⟩, ⟨["hani", "han"], han⟩,
    ⟨["hano", "hanunoo"], hanunoo⟩, ⟨["hatr", "hatran"], hatran⟩, ⟨["hebr", "hebrew"], hebrew⟩,
    ⟨["hira", "hiragana"], hiragana⟩, ⟨["hluw", "anatolianhieroglyphs"], anatolianHieroglyphs⟩,
    ⟨["hmng", "pahawhhmong"], pahawhHmong⟩,
    ⟨["hmnp", "nyiakengpuachuehmong"], nyiakengPuachueHmong⟩,
    ⟨["hung", "oldhungarian"], oldHungarian⟩, ⟨["ital", "olditalic"], oldItalic⟩,
    ⟨["java", "javanese"], javanese⟩, ⟨["kali", "kayahli"], kayahLi⟩,
    ⟨["kana", "katakana"], katakana⟩, ⟨["kawi"], kawi⟩, ⟨["khar", "kharoshthi"], kharoshthi⟩,
    ⟨["khmr", "khmer"], khmer⟩, ⟨["khoj", "khojki"], khojki⟩,
    ⟨["kits", "khitansmallscript"], khitanSmallScript⟩, ⟨["knda", "kannada"], kannada⟩,
    ⟨["krai", "kiratrai"], kiratRai⟩, ⟨["kthi", "kaithi"], kaithi⟩, ⟨["lana", "taitham"], taiTham⟩,
    ⟨["laoo", "lao"], lao⟩, ⟨["latn", "latin"], latin⟩, ⟨["lepc", "lepcha"], lepcha⟩,
    ⟨["limb", "limbu"], limbu⟩, ⟨["lina", "lineara"], linearA⟩, ⟨["linb", "linearb"], linearB⟩,
    ⟨["lisu"], lisu⟩, ⟨["lyci", "lycian"], lycian⟩, ⟨["lydi", "lydian"], lydian⟩,
    ⟨["mahj", "mahajani"], mahajani⟩, ⟨["maka", "makasar"], makasar⟩,
    ⟨["mand", "mandaic"], mandaic⟩, ⟨["mani", "manichaean"], manichaean⟩,
    ⟨["marc", "marchen"], marchen⟩, ⟨["medf", "medefaidrin"], medefaidrin⟩,
    ⟨["mend", "mendekikakui"], mendeKikakui⟩, ⟨["merc", "meroiticcursive"], meroiticCursive⟩,
    ⟨["mero", "meroitichieroglyphs"], meroiticHieroglyphs⟩, ⟨["mlym", "malayalam"], malayalam⟩,
    ⟨["modi"], modi⟩, ⟨["mong", "mongolian"], mongolian⟩, ⟨["mroo", "mro"], mro⟩,
    ⟨["mtei", "meeteimayek"], meeteiMayek⟩, ⟨["mult", "multani"], multani⟩,
    ⟨["mymr", "myanmar"], myanmar⟩, ⟨["nagm", "nagmundari"], nagMundari⟩,
    ⟨["nand", "nandinagari"], nandinagari⟩, ⟨["narb", "oldnortharabian"], oldNorthArabian⟩,
    ⟨["nbat", "nabataean"], nabataean⟩, ⟨["newa"], newa⟩, ⟨["nkoo", "nko"], nko⟩,
    ⟨["nshu", "nushu"], nushu⟩, ⟨["ogam", "ogham"], ogham⟩, ⟨["olck", "olchiki"], olChiki⟩,
    ⟨["onao", "olonal"], olOnal⟩, ⟨["orkh", "oldturkic"], oldTurkic⟩, ⟨["orya", "oriya"], oriya⟩,
    ⟨["osge", "osage"], osage⟩, ⟨["osma", "osmanya"], osmanya⟩, ⟨["ougr", "olduyghur"], oldUyghur⟩,
    ⟨["palm", "palmyrene"], palmyrene⟩, ⟨["pauc", "paucinhau"], pauCinHau⟩,
    ⟨["perm", "oldpermic"], oldPermic⟩, ⟨["phag", "phagspa"], phagsPa⟩,
    ⟨["phli", "inscriptionalpahlavi"], inscriptionalPahlavi⟩,
    ⟨["phlp", "psalterpahlavi"], psalterPahlavi⟩, ⟨["phnx", "phoenician"], phoenician⟩,
    ⟨["plrd", "miao"], miao⟩, ⟨["prti", "inscriptionalparthian"], inscriptionalParthian⟩,
    ⟨["rjng", "rejang"], rejang⟩, ⟨["rohg", "hanifirohingya"], hanifiRohingya⟩,
    ⟨["runr", "runic"], runic⟩, ⟨["samr", "samaritan"], samaritan⟩,
    ⟨["sarb", "oldsoutharabian"], oldSouthArabian⟩, ⟨["saur", "saurashtra"], saurashtra⟩,
    ⟨["sgnw", "signwriting"], signwriting⟩, ⟨["shaw", "shavian"], shavian⟩,
    ⟨["shrd", "sharada"], sharada⟩, ⟨["sidd", "siddham"], siddham⟩, ⟨["sidt", "sidetic"], sidetic⟩,
    ⟨["sind", "khudawadi"], khudawadi⟩, ⟨["sinh", "sinhala"], sinhala⟩,
    ⟨["sogd", "sogdian"], sogdian⟩, ⟨["sogo", "oldsogdian"], oldSogdian⟩,
    ⟨["sora", "sorasompeng"], soraSompeng⟩, ⟨["soyo", "soyombo"], soyombo⟩,
    ⟨["sund", "sundanese"], sundanese⟩, ⟨["sunu", "sunuwar"], sunuwar⟩,
    ⟨["sylo", "sylotinagri"], sylotiNagri⟩, ⟨["syrc", "syriac"], syriac⟩,
    ⟨["tagb", "tagbanwa"], tagbanwa⟩, ⟨["takr", "takri"], takri⟩, ⟨["tale", "taile"], taiLe⟩,
    ⟨["talu", "newtailue"], newTaiLue⟩, ⟨["taml", "tamil"], tamil⟩, ⟨["tang", "tangut"], tangut⟩,
    ⟨["tavt", "taiviet"], taiViet⟩, ⟨["tayo", "taiyo"], taiYo⟩, ⟨["telu", "telugu"], telugu⟩,
    ⟨["tfng", "tifinagh"], tifinagh⟩, ⟨["tglg", "tagalog"], tagalog⟩, ⟨["thaa", "thaana"], thaana⟩,
    ⟨["thai"], thai⟩, ⟨["tibt", "tibetan"], tibetan⟩, ⟨["tirh", "tirhuta"], tirhuta⟩,
    ⟨["tnsa", "tangsa"], tangsa⟩, ⟨["todr", "todhri"], todhri⟩,
    ⟨["tols", "tolongsiki"], tolongSiki⟩, ⟨["toto"], toto⟩,
    ⟨["tutg", "tulutigalari"], tuluTigalari⟩, ⟨["ugar", "ugaritic"], ugaritic⟩,
    ⟨["vaii", "vai"], vai⟩, ⟨["vith", "vithkuqi"], vithkuqi⟩, ⟨["wara", "warangciti"], warangCiti⟩,
    ⟨["wcho", "wancho"], wancho⟩, ⟨["xpeo", "oldpersian"], oldPersian⟩,
    ⟨["xsux", "cuneiform"], cuneiform⟩, ⟨["yezi", "yezidi"], yezidi⟩, ⟨["yiii", "yi"], yi⟩,
    ⟨["zanb", "zanabazarsquare"], zanabazarSquare⟩, ⟨["zinh", "inherited", "qaai"], inherited⟩,
    ⟨["zyyy", "common"], common⟩]

def named? (name : String) : Option Script :=
  all.find? fun script => script.names.contains name

/-- Whether the characters of a script belong to no script in particular. -/
def isGeneral (script : Script) : Bool :=
  script.names.contains "zyyy" || script.names.contains "zinh"

def set (script : Script) : CharSet := .listed script.runs

/-- The characters of a script in the wide sense. -/
def wideSet (script : Script) : CharSet :=
  let shared := fun p => unions ((sharedRuns.filter p).map fun entry => listed entry.2)
  if script.isGeneral then .without script.set (shared fun _ => true)
  else .union script.set (shared fun entry => entry.1.any script.names.contains)

end Script

end Predictive.CharSet
