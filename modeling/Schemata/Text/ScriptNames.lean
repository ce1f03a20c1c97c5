import Schemata.Text.RareScripts
import Schemata.Text.Scripts

/-!
# Scripts by name

The scripts of the Unicode character database under their names, and the characters that are used
with several of them.
-/

namespace Schemata.Text.Script

/-- Each script under its short name, its long name and the names it had before. -/
def named : List (List String × CodeRanges) := [
  (["zyyy", "common"], common),
  (["zinh", "inherited", "qaai"], inherited),
  (["arab", "arabic"], arabic),
  (["armn", "armenian"], armenian),
  (["beng", "bengali"], bengali),
  (["bopo", "bopomofo"], bopomofo),
  (["cyrl", "cyrillic"], cyrillic),
  (["deva", "devanagari"], devanagari),
  (["ethi", "ethiopic"], ethiopic),
  (["geor", "georgian"], georgian),
  (["grek", "greek"], greek),
  (["gujr", "gujarati"], gujarati),
  (["guru", "gurmukhi"], gurmukhi),
  (["hani", "han"], han),
  (["hang", "hangul"], hangul),
  (["hebr", "hebrew"], hebrew),
  (["hira", "hiragana"], hiragana),
  (["knda", "kannada"], kannada),
  (["kana", "katakana"], katakana),
  (["khmr", "khmer"], khmer),
  (["laoo", "lao"], lao),
  (["latn", "latin"], latin),
  (["mlym", "malayalam"], malayalam),
  (["mymr", "myanmar"], myanmar),
  (["orya", "oriya"], oriya),
  (["sinh", "sinhala"], sinhala),
  (["taml", "tamil"], tamil),
  (["telu", "telugu"], telugu),
  (["thaa", "thaana"], thaana),
  (["thai"], thai),
  (["tibt", "tibetan"], tibetan),
  (["adlm", "adlam"], adlam),
  (["ahom"], ahom),
  (["hluw", "anatolianhieroglyphs"], anatolianHieroglyphs),
  (["avst", "avestan"], avestan),
  (["bali", "balinese"], balinese),
  (["bamu", "bamum"], bamum),
  (["bass", "bassavah"], bassaVah),
  (["batk", "batak"], batak),
  (["bhks", "bhaiksuki"], bhaiksuki),
  (["brah", "brahmi"], brahmi),
  (["brai", "braille"], braille),
  (["bugi", "buginese"], buginese),
  (["buhd", "buhid"], buhid),
  (["cans", "canadianaboriginal"], canadianAboriginal),
  (["cari", "carian"], carian),
  (["aghb", "caucasianalbanian"], caucasianAlbanian),
  (["cakm", "chakma"], chakma),
  (["cham"], cham),
  (["cher", "cherokee"], cherokee),
  (["chrs", "chorasmian"], chorasmian),
  (["copt", "coptic", "qaac"], coptic),
  (["xsux", "cuneiform"], cuneiform),
  (["cprt", "cypriot"], cypriot),
  (["cpmn", "cyprominoan"], cyproMinoan),
  (["dsrt", "deseret"], deseret),
  (["diak", "divesakuru"], divesAkuru),
  (["dogr", "dogra"], dogra),
  (["dupl", "duployan"], duployan),
  (["egyp", "egyptianhieroglyphs"], egyptianHieroglyphs),
  (["elba", "elbasan"], elbasan),
  (["elym", "elymaic"], elymaic),
  (["gara", "garay"], garay),
  (["glag", "glagolitic"], glagolitic),
  (["goth", "gothic"], gothic),
  (["gran", "grantha"], grantha),
  (["gong", "gunjalagondi"], gunjalaGondi),
  (["gukh", "gurungkhema"], gurungKhema),
  (["rohg", "hanifirohingya"], hanifiRohingya),
  (["hano", "hanunoo"], hanunoo),
  (["hatr", "hatran"], hatran),
  (["armi", "imperialaramaic"], imperialAramaic),
  (["phli", "inscriptionalpahlavi"], inscriptionalPahlavi),
  (["prti", "inscriptionalparthian"], inscriptionalParthian),
  (["java", "javanese"], javanese),
  (["kthi", "kaithi"], kaithi),
  (["kawi"], kawi),
  (["kali", "kayahli"], kayahLi),
  (["khar", "kharoshthi"], kharoshthi),
  (["kits", "khitansmallscript"], khitanSmallScript),
  (["khoj", "khojki"], khojki),
  (["sind", "khudawadi"], khudawadi),
  (["krai", "kiratrai"], kiratRai),
  (["lepc", "lepcha"], lepcha),
  (["limb", "limbu"], limbu),
  (["lina", "lineara"], linearA),
  (["linb", "linearb"], linearB),
  (["lisu"], lisu),
  (["lyci", "lycian"], lycian),
  (["lydi", "lydian"], lydian),
  (["mahj", "mahajani"], mahajani),
  (["maka", "makasar"], makasar),
  (["mand", "mandaic"], mandaic),
  (["mani", "manichaean"], manichaean),
  (["marc", "marchen"], marchen),
  (["gonm", "masaramgondi"], masaramGondi),
  (["medf", "medefaidrin"], medefaidrin),
  (["mtei", "meeteimayek"], meeteiMayek),
  (["mend", "mendekikakui"], mendeKikakui),
  (["merc", "meroiticcursive"], meroiticCursive),
  (["mero", "meroitichieroglyphs"], meroiticHieroglyphs),
  (["plrd", "miao"], miao),
  (["modi"], modi),
  (["mong", "mongolian"], mongolian),
  (["mroo", "mro"], mro),
  (["mult", "multani"], multani),
  (["nbat", "nabataean"], nabataean),
  (["nagm", "nagmundari"], nagMundari),
  (["nand", "nandinagari"], nandinagari),
  (["talu", "newtailue"], newTaiLue),
  (["newa"], newa),
  (["nkoo", "nko"], nko),
  (["nshu", "nushu"], nushu),
  (["hmnp", "nyiakengpuachuehmong"], nyiakengPuachueHmong),
  (["ogam", "ogham"], ogham),
  (["olck", "olchiki"], olChiki),
  (["onao", "olonal"], olOnal),
  (["hung", "oldhungarian"], oldHungarian),
  (["ital", "olditalic"], oldItalic),
  (["narb", "oldnortharabian"], oldNorthArabian),
  (["perm", "oldpermic"], oldPermic),
  (["xpeo", "oldpersian"], oldPersian),
  (["sogo", "oldsogdian"], oldSogdian),
  (["sarb", "oldsoutharabian"], oldSouthArabian),
  (["orkh", "oldturkic"], oldTurkic),
  (["ougr", "olduyghur"], oldUyghur),
  (["osge", "osage"], osage),
  (["osma", "osmanya"], osmanya),
  (["hmng", "pahawhhmong"], pahawhHmong),
  (["palm", "palmyrene"], palmyrene),
  (["pauc", "paucinhau"], pauCinHau),
  (["phag", "phagspa"], phagsPa),
  (["phnx", "phoenician"], phoenician),
  (["phlp", "psalterpahlavi"], psalterPahlavi),
  (["rjng", "rejang"], rejang),
  (["runr", "runic"], runic),
  (["samr", "samaritan"], samaritan),
  (["saur", "saurashtra"], saurashtra),
  (["shrd", "sharada"], sharada),
  (["shaw", "shavian"], shavian),
  (["sidd", "siddham"], siddham),
  (["sgnw", "signwriting"], signWriting),
  (["sogd", "sogdian"], sogdian),
  (["sora", "sorasompeng"], soraSompeng),
  (["soyo", "soyombo"], soyombo),
  (["sund", "sundanese"], sundanese),
  (["sunu", "sunuwar"], sunuwar),
  (["sylo", "sylotinagri"], sylotiNagri),
  (["syrc", "syriac"], syriac),
  (["tglg", "tagalog"], tagalog),
  (["tagb", "tagbanwa"], tagbanwa),
  (["tale", "taile"], taiLe),
  (["lana", "taitham"], taiTham),
  (["tavt", "taiviet"], taiViet),
  (["takr", "takri"], takri),
  (["tnsa", "tangsa"], tangsa),
  (["tang", "tangut"], tangut),
  (["tfng", "tifinagh"], tifinagh),
  (["tirh", "tirhuta"], tirhuta),
  (["todr", "todhri"], todhri),
  (["toto"], toto),
  (["tutg", "tulutigalari"], tuluTigalari),
  (["ugar", "ugaritic"], ugaritic),
  (["vaii", "vai"], vai),
  (["vith", "vithkuqi"], vithkuqi),
  (["wcho", "wancho"], wancho),
  (["wara", "warangciti"], warangCiti),
  (["yezi", "yezidi"], yezidi),
  (["yiii", "yi"], yi),
  (["zanb", "zanabazarsquare"], zanabazarSquare)]

/-- Characters of more than one script, or of another script than their own table says, with the
short names of all their scripts. -/
def shared : List (CodeRanges × List String) := [
  ([(0xb7, 0xb7)],
    ["avst", "cari", "copt", "dupl", "elba", "geor", "glag", "gong", "goth", "grek", "hani",
      "latn", "lydi", "mahj", "perm", "shaw"]),
  ([(0x2bc, 0x2bc)], ["beng", "cyrl", "deva", "latn", "lisu", "thai", "toto"]),
  ([(0x2c7, 0x2c7), (0x2c9, 0x2cb), (0x2d9, 0x2d9)], ["bopo", "latn"]),
  ([(0x2cd, 0x2cd)], ["latn", "lisu"]),
  ([(0x2d7, 0x2d7)], ["latn", "thai"]),
  ([(0x300, 0x300)], ["cher", "copt", "cyrl", "grek", "latn", "perm", "sunu", "tale"]),
  ([(0x301, 0x301)], ["cher", "cyrl", "grek", "latn", "osge", "sunu", "tale", "todr"]),
  ([(0x302, 0x302)], ["cher", "cyrl", "latn", "tfng"]),
  ([(0x303, 0x303)], ["glag", "latn", "sunu", "syrc", "thai"]),
  ([(0x304, 0x304)],
    ["aghb", "cher", "copt", "cyrl", "goth", "grek", "latn", "osge", "syrc", "tfng", "todr"]),
  ([(0x305, 0x305)], ["copt", "elba", "glag", "goth", "kana", "latn"]),
  ([(0x306, 0x306)], ["cyrl", "grek", "latn", "perm"]),
  ([(0x307, 0x307)], ["copt", "dupl", "hebr", "latn", "perm", "syrc", "tale", "tfng", "todr"]),
  ([(0x308, 0x308)],
    ["armn", "cyrl", "dupl", "goth", "grek", "hebr", "latn", "perm", "syrc", "tale"]),
  ([(0x309, 0x309)], ["latn", "tfng"]),
  ([(0x30a, 0x30a)], ["dupl", "latn", "syrc"]),
  ([(0x30b, 0x30b)], ["cher", "cyrl", "latn", "osge"]),
  ([(0x30c, 0x30c)], ["cher", "latn", "tale"]),
  ([(0x30d, 0x30d), (0x310, 0x310)], ["latn", "sunu"]),
  ([(0x30e, 0x30e)], ["ethi", "latn"]),
  ([(0x311, 0x311)], ["cyrl", "latn", "todr"]),
  ([(0x313, 0x313)], ["grek", "latn", "perm", "todr"]),
  ([(0x320, 0x320), (0x325, 0x325), (0x32e, 0x32e)], ["latn", "syrc"]),
  ([(0x323, 0x323)], ["cher", "dupl", "kana", "latn", "syrc"]),
  ([(0x324, 0x324)], ["cher", "dupl", "latn", "syrc"]),
  ([(0x32d, 0x32d)], ["latn", "sunu", "syrc"]),
  ([(0x330, 0x330)], ["cher", "latn", "syrc"]),
  ([(0x331, 0x331)], ["aghb", "cher", "goth", "latn", "sunu", "thai"]),
  ([(0x342, 0x342), (0x345, 0x345), (0x1dc0, 0x1dc1)], ["grek"]),
  ([(0x358, 0x358)], ["latn", "osge"]),
  ([(0x35e, 0x35e)], ["aghb", "latn", "todr"]),
  ([(0x363, 0x36f)], ["latn"]),
  ([(0x374, 0x375)], ["copt", "grek"]),
  ([(0x483, 0x483)], ["cyrl", "perm"]),
  ([(0x484, 0x484), (0x487, 0x487), (0x2e43, 0x2e43), (0xa66f, 0xa66f)], ["cyrl", "glag"]),
  ([(0x485, 0x486)], ["cyrl", "latn"]),
  ([(0x589, 0x589)], ["armn", "geor", "glag"]),
  ([(0x60c, 0x60c), (0x61b, 0x61b)], ["arab", "gara", "nkoo", "rohg", "syrc", "thaa", "yezi"]),
  ([(0x61c, 0x61c)], ["arab", "syrc", "thaa"]),
  ([(0x61f, 0x61f)], ["adlm", "arab", "gara", "nkoo", "rohg", "syrc", "thaa", "yezi"]),
  ([(0x640, 0x640)], ["adlm", "arab", "mand", "mani", "ougr", "phlp", "rohg", "sogd", "syrc"]),
  ([(0x64b, 0x655), (0x670, 0x670)], ["arab", "syrc"]),
  ([(0x660, 0x669)], ["arab", "thaa", "yezi"]),
  ([(0x6d4, 0x6d4)], ["arab", "rohg"]),
  ([(0x951, 0x951)],
    ["beng", "deva", "gran", "gujr", "guru", "knda", "latn", "mlym", "orya", "shrd", "taml",
      "telu", "tirh"]),
  ([(0x952, 0x952)],
    ["beng", "deva", "gran", "gujr", "guru", "knda", "latn", "mlym", "orya", "taml", "telu",
      "tirh"]),
  ([(0x964, 0x964)],
    ["beng", "deva", "dogr", "gong", "gonm", "gran", "gujr", "guru", "knda", "mahj", "mlym",
      "nand", "onao", "orya", "sind", "sinh", "sylo", "takr", "taml", "telu", "tirh"]),
  ([(0x965, 0x965)],
    ["beng", "deva", "dogr", "gong", "gonm", "gran", "gujr", "gukh", "guru", "knda", "limb",
      "mahj", "mlym", "nand", "onao", "orya", "sind", "sinh", "sylo", "takr", "taml", "telu",
      "tirh"]),
  ([(0x966, 0x96f)], ["deva", "dogr", "kthi", "mahj"]),
  ([(0x9e6, 0x9ef)], ["beng", "cakm", "sylo"]),
  ([(0xa66, 0xa6f)], ["guru", "mult"]),
  ([(0xae6, 0xaef)], ["gujr", "khoj"]),
  ([(0xbe6, 0xbf3), (0x11301, 0x11301), (0x11303, 0x11303), (0x1133b, 0x1133c), (0x11fd0, 0x11fd1),
    (0x11fd3, 0x11fd3)],
    ["gran", "taml"]),
  ([(0xce6, 0xcef)], ["knda", "nand", "tutg"]),
  ([(0x1040, 0x1049)], ["cakm", "mymr", "tale"]),
  ([(0x10fb, 0x10fb)], ["geor", "glag", "latn"]),
  ([(0x16eb, 0x16ed)], ["runr"]),
  ([(0x1735, 0x1736)], ["buhd", "hano", "tagb", "tglg"]),
  ([(0x1802, 0x1803), (0x1805, 0x1805)], ["mong", "phag"]),
  ([(0x1cd0, 0x1cd0), (0x1cd2, 0x1cd2)], ["beng", "deva", "gran", "knda"]),
  ([(0x1cd1, 0x1cd1), (0x1cd4, 0x1cd4), (0x1cdb, 0x1cdb), (0x1cde, 0x1cdf), (0x1ce2, 0x1ce8),
    (0x1ceb, 0x1cec), (0x1cee, 0x1cf1)],
    ["deva"]),
  ([(0x1cd3, 0x1cd3)], ["deva", "gran", "knda"]),
  ([(0x1cd5, 0x1cd6), (0x1cd8, 0x1cd8), (0x1ce1, 0x1ce1), (0x1cea, 0x1cea), (0x1ced, 0x1ced),
    (0x1cf5, 0x1cf6)],
    ["beng", "deva"]),
  ([(0x1cd7, 0x1cd7), (0x1cd9, 0x1cd9), (0x1cdc, 0x1cdd), (0x1ce0, 0x1ce0)], ["deva", "shrd"]),
  ([(0x1cda, 0x1cda)], ["deva", "knda", "mlym", "orya", "taml", "telu"]),
  ([(0x1ce9, 0x1ce9)], ["deva", "nand"]),
  ([(0x1cf2, 0x1cf2)],
    ["beng", "deva", "gran", "knda", "mlym", "nand", "orya", "sinh", "telu", "tirh", "tutg"]),
  ([(0x1cf3, 0x1cf3), (0x1cf8, 0x1cf9)], ["deva", "gran"]),
  ([(0x1cf4, 0x1cf4)], ["deva", "gran", "knda", "tutg"]),
  ([(0x1cf7, 0x1cf7)], ["beng"]),
  ([(0x1cfa, 0x1cfa)], ["nand"]),
  ([(0x1df8, 0x1df8)], ["cyrl", "latn", "syrc"]),
  ([(0x1dfa, 0x1dfa)], ["syrc"]),
  ([(0x202f, 0x202f)], ["latn", "mong", "phag"]),
  ([(0x204f, 0x204f)], ["adlm", "arab"]),
  ([(0x205a, 0x205a)], ["cari", "geor", "glag", "hung", "lyci", "orkh"]),
  ([(0x205d, 0x205d)], ["cari", "grek", "hung", "mero"]),
  ([(0x20f0, 0x20f0)], ["deva", "gran", "latn"]),
  ([(0x2e17, 0x2e17)], ["copt", "latn"]),
  ([(0x2e30, 0x2e30)], ["avst", "orkh"]),
  ([(0x2e31, 0x2e31)], ["avst", "cari", "geor", "hung", "kthi", "lydi", "samr"]),
  ([(0x2e3c, 0x2e3c), (0x1bca0, 0x1bca3)], ["dupl"]),
  ([(0x2e41, 0x2e41)], ["adlm", "arab", "hung"]),
  ([(0x2ff0, 0x2fff), (0x31ef, 0x31ef)], ["hani", "tang"]),
  ([(0x3001, 0x3001)], ["bopo", "hang", "hani", "hira", "kana", "mong", "yiii"]),
  ([(0x3002, 0x3002)], ["bopo", "hang", "hani", "hira", "kana", "mong", "phag", "yiii"]),
  ([(0x3003, 0x3003), (0x3013, 0x3013), (0x301c, 0x301f), (0x3030, 0x3030), (0x3037, 0x3037),
    (0xfe45, 0xfe46)],
    ["bopo", "hang", "hani", "hira", "kana"]),
  ([(0x3006, 0x3006), (0x303e, 0x303f), (0x3190, 0x319f), (0x31c0, 0x31e5), (0x3220, 0x3247),
    (0x3280, 0x32b0), (0x32c0, 0x32cb), (0x32ff, 0x32ff), (0x3358, 0x3370), (0x337b, 0x337f),
    (0x33e0, 0x33fe), (0x1d360, 0x1d371), (0x1f250, 0x1f251)],
    ["hani"]),
  ([(0x3008, 0x3009)], ["bopo", "hang", "hani", "hira", "kana", "mong", "tibt", "yiii"]),
  ([(0x300a, 0x300b)], ["bopo", "hang", "hani", "hira", "kana", "lisu", "mong", "tibt", "yiii"]),
  ([(0x300c, 0x3011), (0x3014, 0x301b), (0x30fb, 0x30fb), (0xff61, 0xff65)],
    ["bopo", "hang", "hani", "hira", "kana", "yiii"]),
  ([(0x302a, 0x302d)], ["bopo", "hani"]),
  ([(0x3031, 0x3035), (0x3099, 0x309c), (0x30a0, 0x30a0), (0x30fc, 0x30fc), (0xff70, 0xff70),
    (0xff9e, 0xff9f)],
    ["hira", "kana"]),
  ([(0x303c, 0x303d)], ["hani", "hira", "kana"]),
  ([(0xa700, 0xa707)], ["hani", "latn"]),
  ([(0xa830, 0xa832)],
    ["deva", "dogr", "gujr", "guru", "khoj", "knda", "kthi", "mahj", "mlym", "modi", "nand",
      "shrd", "sind", "takr", "tirh", "tutg"]),
  ([(0xa833, 0xa835)],
    ["deva", "dogr", "gujr", "guru", "khoj", "knda", "kthi", "mahj", "modi", "nand", "shrd",
      "sind", "takr", "tirh", "tutg"]),
  ([(0xa836, 0xa837), (0xa839, 0xa839)],
    ["deva", "dogr", "gujr", "guru", "khoj", "kthi", "mahj", "modi", "sind", "takr", "tirh"]),
  ([(0xa838, 0xa838)],
    ["deva", "dogr", "gujr", "guru", "khoj", "kthi", "mahj", "modi", "shrd", "sind", "takr",
      "tirh"]),
  ([(0xa8f1, 0xa8f1)], ["beng", "deva", "tutg"]),
  ([(0xa8f3, 0xa8f3)], ["deva", "taml"]),
  ([(0xa92e, 0xa92e)], ["kali", "latn", "mymr"]),
  ([(0xa9cf, 0xa9cf)], ["bugi", "java"]),
  ([(0xfd3e, 0xfd3f)], ["arab", "nkoo"]),
  ([(0xfdf2, 0xfdf2), (0xfdfd, 0xfdfd)], ["arab", "thaa"]),
  ([(0x10100, 0x10101)], ["cpmn", "cprt", "linb"]),
  ([(0x10102, 0x10102), (0x10137, 0x1013f)], ["cprt", "linb"]),
  ([(0x10107, 0x10133)], ["cprt", "lina", "linb"]),
  ([(0x102e0, 0x102fb)], ["arab", "copt"]),
  ([(0x10af2, 0x10af2)], ["mani", "ougr"])]

end Schemata.Text.Script
