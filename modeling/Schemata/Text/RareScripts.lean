import Schemata.Text.CodeRanges

/-!
# Rare scripts

The historic scripts and the scripts in limited use of the Unicode character database, version 16,
as ascending code ranges.
-/

namespace Schemata.Text.Script

def adlam : CodeRanges := [
  (0x1e900, 0x1e94b), (0x1e950, 0x1e959), (0x1e95e, 0x1e95f)]

def ahom : CodeRanges := [
  (0x11700, 0x1171a), (0x1171d, 0x1172b), (0x11730, 0x11746)]

def anatolianHieroglyphs : CodeRanges := [
  (0x14400, 0x14646)]

def avestan : CodeRanges := [
  (0x10b00, 0x10b35), (0x10b39, 0x10b3f)]

def balinese : CodeRanges := [
  (0x1b00, 0x1b4c), (0x1b4e, 0x1b7f)]

def bamum : CodeRanges := [
  (0xa6a0, 0xa6f7), (0x16800, 0x16a38)]

def bassaVah : CodeRanges := [
  (0x16ad0, 0x16aed), (0x16af0, 0x16af5)]

def batak : CodeRanges := [
  (0x1bc0, 0x1bf3), (0x1bfc, 0x1bff)]

def bhaiksuki : CodeRanges := [
  (0x11c00, 0x11c08), (0x11c0a, 0x11c36), (0x11c38, 0x11c45), (0x11c50, 0x11c6c)]

def brahmi : CodeRanges := [
  (0x11000, 0x1104d), (0x11052, 0x11075), (0x1107f, 0x1107f)]

def braille : CodeRanges := [
  (0x2800, 0x28ff)]

def buginese : CodeRanges := [
  (0x1a00, 0x1a1b), (0x1a1e, 0x1a1f)]

def buhid : CodeRanges := [
  (0x1740, 0x1753)]

def canadianAboriginal : CodeRanges := [
  (0x1400, 0x167f), (0x18b0, 0x18f5), (0x11ab0, 0x11abf)]

def carian : CodeRanges := [
  (0x102a0, 0x102d0)]

def caucasianAlbanian : CodeRanges := [
  (0x10530, 0x10563), (0x1056f, 0x1056f)]

def chakma : CodeRanges := [
  (0x11100, 0x11134), (0x11136, 0x11147)]

def cham : CodeRanges := [
  (0xaa00, 0xaa36), (0xaa40, 0xaa4d), (0xaa50, 0xaa59), (0xaa5c, 0xaa5f)]

def cherokee : CodeRanges := [
  (0x13a0, 0x13f5), (0x13f8, 0x13fd), (0xab70, 0xabbf)]

def chorasmian : CodeRanges := [
  (0x10fb0, 0x10fcb)]

def coptic : CodeRanges := [
  (0x3e2, 0x3ef), (0x2c80, 0x2cf3), (0x2cf9, 0x2cff)]

def cuneiform : CodeRanges := [
  (0x12000, 0x12399), (0x12400, 0x1246e), (0x12470, 0x12474), (0x12480, 0x12543)]

def cypriot : CodeRanges := [
  (0x10800, 0x10805), (0x10808, 0x10808), (0x1080a, 0x10835), (0x10837, 0x10838),
  (0x1083c, 0x1083c), (0x1083f, 0x1083f)]

def cyproMinoan : CodeRanges := [
  (0x12f90, 0x12ff2)]

def deseret : CodeRanges := [
  (0x10400, 0x1044f)]

def divesAkuru : CodeRanges := [
  (0x11900, 0x11906), (0x11909, 0x11909), (0x1190c, 0x11913), (0x11915, 0x11916),
  (0x11918, 0x11935), (0x11937, 0x11938), (0x1193b, 0x11946), (0x11950, 0x11959)]

def dogra : CodeRanges := [
  (0x11800, 0x1183b)]

def duployan : CodeRanges := [
  (0x1bc00, 0x1bc6a), (0x1bc70, 0x1bc7c), (0x1bc80, 0x1bc88), (0x1bc90, 0x1bc99),
  (0x1bc9c, 0x1bc9f)]

def egyptianHieroglyphs : CodeRanges := [
  (0x13000, 0x13455), (0x13460, 0x143fa)]

def elbasan : CodeRanges := [
  (0x10500, 0x10527)]

def elymaic : CodeRanges := [
  (0x10fe0, 0x10ff6)]

def garay : CodeRanges := [
  (0x10d40, 0x10d65), (0x10d69, 0x10d85), (0x10d8e, 0x10d8f)]

def glagolitic : CodeRanges := [
  (0x2c00, 0x2c5f), (0x1e000, 0x1e006), (0x1e008, 0x1e018), (0x1e01b, 0x1e021), (0x1e023, 0x1e024),
  (0x1e026, 0x1e02a)]

def gothic : CodeRanges := [
  (0x10330, 0x1034a)]

def grantha : CodeRanges := [
  (0x11300, 0x11303), (0x11305, 0x1130c), (0x1130f, 0x11310), (0x11313, 0x11328),
  (0x1132a, 0x11330), (0x11332, 0x11333), (0x11335, 0x11339), (0x1133c, 0x11344),
  (0x11347, 0x11348), (0x1134b, 0x1134d), (0x11350, 0x11350), (0x11357, 0x11357),
  (0x1135d, 0x11363), (0x11366, 0x1136c), (0x11370, 0x11374)]

def gunjalaGondi : CodeRanges := [
  (0x11d60, 0x11d65), (0x11d67, 0x11d68), (0x11d6a, 0x11d8e), (0x11d90, 0x11d91),
  (0x11d93, 0x11d98), (0x11da0, 0x11da9)]

def gurungKhema : CodeRanges := [
  (0x16100, 0x16139)]

def hanifiRohingya : CodeRanges := [
  (0x10d00, 0x10d27), (0x10d30, 0x10d39)]

def hanunoo : CodeRanges := [
  (0x1720, 0x1734)]

def hatran : CodeRanges := [
  (0x108e0, 0x108f2), (0x108f4, 0x108f5), (0x108fb, 0x108ff)]

def imperialAramaic : CodeRanges := [
  (0x10840, 0x10855), (0x10857, 0x1085f)]

def inscriptionalPahlavi : CodeRanges := [
  (0x10b60, 0x10b72), (0x10b78, 0x10b7f)]

def inscriptionalParthian : CodeRanges := [
  (0x10b40, 0x10b55), (0x10b58, 0x10b5f)]

def javanese : CodeRanges := [
  (0xa980, 0xa9cd), (0xa9d0, 0xa9d9), (0xa9de, 0xa9df)]

def kaithi : CodeRanges := [
  (0x11080, 0x110c2), (0x110cd, 0x110cd)]

def kawi : CodeRanges := [
  (0x11f00, 0x11f10), (0x11f12, 0x11f3a), (0x11f3e, 0x11f5a)]

def kayahLi : CodeRanges := [
  (0xa900, 0xa92d), (0xa92f, 0xa92f)]

def kharoshthi : CodeRanges := [
  (0x10a00, 0x10a03), (0x10a05, 0x10a06), (0x10a0c, 0x10a13), (0x10a15, 0x10a17),
  (0x10a19, 0x10a35), (0x10a38, 0x10a3a), (0x10a3f, 0x10a48), (0x10a50, 0x10a58)]

def khitanSmallScript : CodeRanges := [
  (0x16fe4, 0x16fe4), (0x18b00, 0x18cd5), (0x18cff, 0x18cff)]

def khojki : CodeRanges := [
  (0x11200, 0x11211), (0x11213, 0x11241)]

def khudawadi : CodeRanges := [
  (0x112b0, 0x112ea), (0x112f0, 0x112f9)]

def kiratRai : CodeRanges := [
  (0x16d40, 0x16d79)]

def lepcha : CodeRanges := [
  (0x1c00, 0x1c37), (0x1c3b, 0x1c49), (0x1c4d, 0x1c4f)]

def limbu : CodeRanges := [
  (0x1900, 0x191e), (0x1920, 0x192b), (0x1930, 0x193b), (0x1940, 0x1940), (0x1944, 0x194f)]

def linearA : CodeRanges := [
  (0x10600, 0x10736), (0x10740, 0x10755), (0x10760, 0x10767)]

def linearB : CodeRanges := [
  (0x10000, 0x1000b), (0x1000d, 0x10026), (0x10028, 0x1003a), (0x1003c, 0x1003d),
  (0x1003f, 0x1004d), (0x10050, 0x1005d), (0x10080, 0x100fa)]

def lisu : CodeRanges := [
  (0xa4d0, 0xa4ff), (0x11fb0, 0x11fb0)]

def lycian : CodeRanges := [
  (0x10280, 0x1029c)]

def lydian : CodeRanges := [
  (0x10920, 0x10939), (0x1093f, 0x1093f)]

def mahajani : CodeRanges := [
  (0x11150, 0x11176)]

def makasar : CodeRanges := [
  (0x11ee0, 0x11ef8)]

def mandaic : CodeRanges := [
  (0x840, 0x85b), (0x85e, 0x85e)]

def manichaean : CodeRanges := [
  (0x10ac0, 0x10ae6), (0x10aeb, 0x10af6)]

def marchen : CodeRanges := [
  (0x11c70, 0x11c8f), (0x11c92, 0x11ca7), (0x11ca9, 0x11cb6)]

def masaramGondi : CodeRanges := [
  (0x11d00, 0x11d06), (0x11d08, 0x11d09), (0x11d0b, 0x11d36), (0x11d3a, 0x11d3a),
  (0x11d3c, 0x11d3d), (0x11d3f, 0x11d47), (0x11d50, 0x11d59)]

def medefaidrin : CodeRanges := [
  (0x16e40, 0x16e9a)]

def meeteiMayek : CodeRanges := [
  (0xaae0, 0xaaf6), (0xabc0, 0xabed), (0xabf0, 0xabf9)]

def mendeKikakui : CodeRanges := [
  (0x1e800, 0x1e8c4), (0x1e8c7, 0x1e8d6)]

def meroiticCursive : CodeRanges := [
  (0x109a0, 0x109b7), (0x109bc, 0x109cf), (0x109d2, 0x109ff)]

def meroiticHieroglyphs : CodeRanges := [
  (0x10980, 0x1099f)]

def miao : CodeRanges := [
  (0x16f00, 0x16f4a), (0x16f4f, 0x16f87), (0x16f8f, 0x16f9f)]

def modi : CodeRanges := [
  (0x11600, 0x11644), (0x11650, 0x11659)]

def mongolian : CodeRanges := [
  (0x1800, 0x1801), (0x1804, 0x1804), (0x1806, 0x1819), (0x1820, 0x1878), (0x1880, 0x18aa),
  (0x11660, 0x1166c)]

def mro : CodeRanges := [
  (0x16a40, 0x16a5e), (0x16a60, 0x16a69), (0x16a6e, 0x16a6f)]

def multani : CodeRanges := [
  (0x11280, 0x11286), (0x11288, 0x11288), (0x1128a, 0x1128d), (0x1128f, 0x1129d),
  (0x1129f, 0x112a9)]

def nabataean : CodeRanges := [
  (0x10880, 0x1089e), (0x108a7, 0x108af)]

def nagMundari : CodeRanges := [
  (0x1e4d0, 0x1e4f9)]

def nandinagari : CodeRanges := [
  (0x119a0, 0x119a7), (0x119aa, 0x119d7), (0x119da, 0x119e4)]

def newTaiLue : CodeRanges := [
  (0x1980, 0x19ab), (0x19b0, 0x19c9), (0x19d0, 0x19da), (0x19de, 0x19df)]

def newa : CodeRanges := [
  (0x11400, 0x1145b), (0x1145d, 0x11461)]

def nko : CodeRanges := [
  (0x7c0, 0x7fa), (0x7fd, 0x7ff)]

def nushu : CodeRanges := [
  (0x16fe1, 0x16fe1), (0x1b170, 0x1b2fb)]

def nyiakengPuachueHmong : CodeRanges := [
  (0x1e100, 0x1e12c), (0x1e130, 0x1e13d), (0x1e140, 0x1e149), (0x1e14e, 0x1e14f)]

def ogham : CodeRanges := [
  (0x1680, 0x169c)]

def olChiki : CodeRanges := [
  (0x1c50, 0x1c7f)]

def olOnal : CodeRanges := [
  (0x1e5d0, 0x1e5fa), (0x1e5ff, 0x1e5ff)]

def oldHungarian : CodeRanges := [
  (0x10c80, 0x10cb2), (0x10cc0, 0x10cf2), (0x10cfa, 0x10cff)]

def oldItalic : CodeRanges := [
  (0x10300, 0x10323), (0x1032d, 0x1032f)]

def oldNorthArabian : CodeRanges := [
  (0x10a80, 0x10a9f)]

def oldPermic : CodeRanges := [
  (0x10350, 0x1037a)]

def oldPersian : CodeRanges := [
  (0x103a0, 0x103c3), (0x103c8, 0x103d5)]

def oldSogdian : CodeRanges := [
  (0x10f00, 0x10f27)]

def oldSouthArabian : CodeRanges := [
  (0x10a60, 0x10a7f)]

def oldTurkic : CodeRanges := [
  (0x10c00, 0x10c48)]

def oldUyghur : CodeRanges := [
  (0x10f70, 0x10f89)]

def osage : CodeRanges := [
  (0x104b0, 0x104d3), (0x104d8, 0x104fb)]

def osmanya : CodeRanges := [
  (0x10480, 0x1049d), (0x104a0, 0x104a9)]

def pahawhHmong : CodeRanges := [
  (0x16b00, 0x16b45), (0x16b50, 0x16b59), (0x16b5b, 0x16b61), (0x16b63, 0x16b77),
  (0x16b7d, 0x16b8f)]

def palmyrene : CodeRanges := [
  (0x10860, 0x1087f)]

def pauCinHau : CodeRanges := [
  (0x11ac0, 0x11af8)]

def phagsPa : CodeRanges := [
  (0xa840, 0xa877)]

def phoenician : CodeRanges := [
  (0x10900, 0x1091b), (0x1091f, 0x1091f)]

def psalterPahlavi : CodeRanges := [
  (0x10b80, 0x10b91), (0x10b99, 0x10b9c), (0x10ba9, 0x10baf)]

def rejang : CodeRanges := [
  (0xa930, 0xa953), (0xa95f, 0xa95f)]

def runic : CodeRanges := [
  (0x16a0, 0x16ea), (0x16ee, 0x16f8)]

def samaritan : CodeRanges := [
  (0x800, 0x82d), (0x830, 0x83e)]

def saurashtra : CodeRanges := [
  (0xa880, 0xa8c5), (0xa8ce, 0xa8d9)]

def sharada : CodeRanges := [
  (0x11180, 0x111df)]

def shavian : CodeRanges := [
  (0x10450, 0x1047f)]

def siddham : CodeRanges := [
  (0x11580, 0x115b5), (0x115b8, 0x115dd)]

def signWriting : CodeRanges := [
  (0x1d800, 0x1da8b), (0x1da9b, 0x1da9f), (0x1daa1, 0x1daaf)]

def sogdian : CodeRanges := [
  (0x10f30, 0x10f59)]

def soraSompeng : CodeRanges := [
  (0x110d0, 0x110e8), (0x110f0, 0x110f9)]

def soyombo : CodeRanges := [
  (0x11a50, 0x11aa2)]

def sundanese : CodeRanges := [
  (0x1b80, 0x1bbf), (0x1cc0, 0x1cc7)]

def sunuwar : CodeRanges := [
  (0x11bc0, 0x11be1), (0x11bf0, 0x11bf9)]

def sylotiNagri : CodeRanges := [
  (0xa800, 0xa82c)]

def syriac : CodeRanges := [
  (0x700, 0x70d), (0x70f, 0x74a), (0x74d, 0x74f), (0x860, 0x86a)]

def tagalog : CodeRanges := [
  (0x1700, 0x1715), (0x171f, 0x171f)]

def tagbanwa : CodeRanges := [
  (0x1760, 0x176c), (0x176e, 0x1770), (0x1772, 0x1773)]

def taiLe : CodeRanges := [
  (0x1950, 0x196d), (0x1970, 0x1974)]

def taiTham : CodeRanges := [
  (0x1a20, 0x1a5e), (0x1a60, 0x1a7c), (0x1a7f, 0x1a89), (0x1a90, 0x1a99), (0x1aa0, 0x1aad)]

def taiViet : CodeRanges := [
  (0xaa80, 0xaac2), (0xaadb, 0xaadf)]

def takri : CodeRanges := [
  (0x11680, 0x116b9), (0x116c0, 0x116c9)]

def tangsa : CodeRanges := [
  (0x16a70, 0x16abe), (0x16ac0, 0x16ac9)]

def tangut : CodeRanges := [
  (0x16fe0, 0x16fe0), (0x17000, 0x187f7), (0x18800, 0x18aff), (0x18d00, 0x18d08)]

def tifinagh : CodeRanges := [
  (0x2d30, 0x2d67), (0x2d6f, 0x2d70), (0x2d7f, 0x2d7f)]

def tirhuta : CodeRanges := [
  (0x11480, 0x114c7), (0x114d0, 0x114d9)]

def todhri : CodeRanges := [
  (0x105c0, 0x105f3)]

def toto : CodeRanges := [
  (0x1e290, 0x1e2ae)]

def tuluTigalari : CodeRanges := [
  (0x11380, 0x11389), (0x1138b, 0x1138b), (0x1138e, 0x1138e), (0x11390, 0x113b5),
  (0x113b7, 0x113c0), (0x113c2, 0x113c2), (0x113c5, 0x113c5), (0x113c7, 0x113ca),
  (0x113cc, 0x113d5), (0x113d7, 0x113d8), (0x113e1, 0x113e2)]

def ugaritic : CodeRanges := [
  (0x10380, 0x1039d), (0x1039f, 0x1039f)]

def vai : CodeRanges := [
  (0xa500, 0xa62b)]

def vithkuqi : CodeRanges := [
  (0x10570, 0x1057a), (0x1057c, 0x1058a), (0x1058c, 0x10592), (0x10594, 0x10595),
  (0x10597, 0x105a1), (0x105a3, 0x105b1), (0x105b3, 0x105b9), (0x105bb, 0x105bc)]

def wancho : CodeRanges := [
  (0x1e2c0, 0x1e2f9), (0x1e2ff, 0x1e2ff)]

def warangCiti : CodeRanges := [
  (0x118a0, 0x118f2), (0x118ff, 0x118ff)]

def yezidi : CodeRanges := [
  (0x10e80, 0x10ea9), (0x10eab, 0x10ead), (0x10eb0, 0x10eb1)]

def yi : CodeRanges := [
  (0xa000, 0xa48c), (0xa490, 0xa4c6)]

def zanabazarSquare : CodeRanges := [
  (0x11a00, 0x11a47)]

end Schemata.Text.Script
