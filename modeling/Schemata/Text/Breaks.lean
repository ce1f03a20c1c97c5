import Schemata.Text.DerivedProperties
import Schemata.Text.Scripts
import Schemata.Text.RareScripts

/-!
# Breaks

The classes of characters by which a text is broken into clusters, words and sentences, after the
Unicode character database, version 16.  Characters of no class are of the class of all others.
-/

namespace Schemata.Text.Break

open GeneralCategory Property Emoji

def carriageReturn : CodeRanges :=
  [(0x0d, 0x0d)]

def lineFeed : CodeRanges :=
  [(0x0a, 0x0a)]

def joiner : CodeRanges :=
  [(0x200d, 0x200d)]

def clusterControl : CodeRanges :=
  (CodeRanges.union [lineSeparator, paragraphSeparator, control, GeneralCategory.format,
    CodeRanges.inter unassigned defaultIgnorable]).difference <|
    .union [carriageReturn, lineFeed, joinControl, prependedMark, graphemeExtend]

def clusterExtend : CodeRanges :=
  .union [graphemeExtend, emojiModifier]

/-- Spacing marks, which extend a cluster too, except those that are written apart. -/
def clusterSpacingMark : CodeRanges :=
  .union [[(0xe33, 0xe33), (0xeb3, 0xeb3)], spacingMark.difference <| .union [graphemeExtend,
    [(0x102b, 0x102c), (0x1038, 0x1038), (0x1062, 0x1064), (0x1067, 0x106d), (0x1083, 0x1083),
      (0x1087, 0x108c), (0x108f, 0x108f), (0x109a, 0x109c), (0x1a61, 0x1a61), (0x1a63, 0x1a64),
      (0xaa7b, 0xaa7b), (0xaa7d, 0xaa7d), (0x11720, 0x11721)]]]

def clusterPrepend : CodeRanges :=
  .union [prependedMark, [(0xd4e, 0xd4e), (0x111c2, 0x111c3), (0x113d1, 0x113d1),
    (0x1193f, 0x1193f), (0x11941, 0x11941), (0x11a3a, 0x11a3a), (0x11a84, 0x11a89),
    (0x11d46, 0x11d46), (0x11f02, 0x11f02)]]

def leadingJamo : CodeRanges :=
  [(0x1100, 0x115f), (0xa960, 0xa97c)]

def vowelJamo : CodeRanges :=
  [(0x1160, 0x11a7), (0xd7b0, 0xd7c6), (0x16d63, 0x16d63), (0x16d67, 0x16d6a)]

def trailingJamo : CodeRanges :=
  [(0x11a8, 0x11ff), (0xd7cb, 0xd7fb)]

/-- Syllables without a trailing consonant.  Each is followed by the 27 that have one. -/
def openSyllable : CodeRanges :=
  (List.range 399).map fun place => (0xac00 + 28 * place, 0xac00 + 28 * place)

def closedSyllable : CodeRanges :=
  CodeRanges.difference [(0xac00, 0xd7a3)] openSyllable

def cluster? : String → Option CodeRanges
  | "cr" => some carriageReturn
  | "lf" => some lineFeed
  | "cn" | "control" => some clusterControl
  | "ex" | "extend" => some clusterExtend
  | "sm" | "spacingmark" => some clusterSpacingMark
  | "pp" | "prepend" => some clusterPrepend
  | "ri" | "regionalindicator" => some regionalIndicator
  | "l" => some leadingJamo
  | "v" => some vowelJamo
  | "t" => some trailingJamo
  | "lv" => some openSyllable
  | "lvt" => some closedSyllable
  | "zwj" => some joiner
  | _ => none

def wordExtend : CodeRanges :=
  .union [clusterExtend, spacingMark]

/-- The digits of a number, the digit one of another form among them, its decimal separator and the
marks over it. -/
def numberPart : CodeRanges :=
  .union [decimalNumber, [(0x66b, 0x66b), (0x19da, 0x19da)],
    prependedMark.difference [(0x70f, 0x70f)]]

def wordFormat : CodeRanges :=
  GeneralCategory.format.difference <|
    .union [[(0x200b, 0x200b)], joinControl, graphemeExtend, prependedMark]

def wordKatakana : CodeRanges :=
  .union [Script.katakana, [(0x3031, 0x3035), (0x309b, 0x309c), (0x30a0, 0x30a0), (0x30fc, 0x30fc),
    (0xff70, 0xff70)]]

def hebrewLetter : CodeRanges :=
  CodeRanges.inter Script.hebrew otherLetter

def unspaced : CodeRanges :=
  .union [Script.thai, Script.lao, Script.myanmar.difference [(0x116d0, 0x116e3)], Script.khmer,
    Script.taiLe, Script.newTaiLue, Script.taiTham, Script.taiViet, Script.ahom, Script.hiragana]

def wordLetter : CodeRanges :=
  .union [alphabetic.difference <|
      .union [ideographic, wordKatakana, unspaced, wordExtend, hebrewLetter],
    [(0x2c2, 0x2c5), (0x2d2, 0x2d7), (0x2de, 0x2df), (0x2e5, 0x2eb), (0x2ed, 0x2ed), (0x2ef, 0x2ff),
      (0x55a, 0x55c), (0x55e, 0x55e), (0x58a, 0x58a), (0x5f3, 0x5f3), (0x70f, 0x70f),
      (0xa708, 0xa716), (0xa720, 0xa721), (0xa789, 0xa78a), (0xab5b, 0xab5b)]]

def midNumber : CodeRanges :=
  [(0x2c, 0x2c), (0x3b, 0x3b), (0x37e, 0x37e), (0x589, 0x589), (0x60c, 0x60d), (0x66c, 0x66c),
    (0x7f8, 0x7f8), (0x2044, 0x2044), (0xfe50, 0xfe50), (0xfe54, 0xfe54),
    (0xff0c, 0xff0c), (0xff1b, 0xff1b)]

def wordConnector : CodeRanges :=
  [(0x5f, 0x5f), (0x202f, 0x202f), (0x203f, 0x2040), (0x2054, 0x2054), (0xfe33, 0xfe34),
    (0xfe4d, 0xfe4f), (0xff3f, 0xff3f)]

def word? : String → Option CodeRanges
  | "cr" => some carriageReturn
  | "lf" => some lineFeed
  | "nl" | "newline" => some [(0x0b, 0x0c), (0x85, 0x85), (0x2028, 0x2029)]
  | "extend" => some wordExtend
  | "fo" | "format" => some wordFormat
  | "ka" | "katakana" => some wordKatakana
  | "hl" | "hebrewletter" => some hebrewLetter
  | "le" | "aletter" => some wordLetter
  | "ml" | "midletter" => some midLetter
  | "mn" | "midnum" => some midNumber
  | "mb" | "midnumlet" => some midNumberLetter
  | "nu" | "numeric" => some numberPart
  | "ex" | "extendnumlet" => some wordConnector
  | "sq" | "singlequote" => some [(0x27, 0x27)]
  | "dq" | "doublequote" => some [(0x22, 0x22)]
  | "ri" | "regionalindicator" => some regionalIndicator
  | "wsegspace" =>
    some (spaceSeparator.difference [(0xa0, 0xa0), (0x2007, 0x2007), (0x202f, 0x202f)])
  | "zwj" => some joiner
  | _ => none

def sentenceExtend : CodeRanges :=
  .union [graphemeExtend, spacingMark, joiner]

def sentenceLower : CodeRanges :=
  lowercase.difference <| .union [graphemeExtend, [(0x10d0, 0x10fa), (0x10fd, 0x10ff)]]

def sentenceUpper : CodeRanges :=
  (CodeRanges.union [uppercase, titlecaseLetter]).difference [(0x1c90, 0x1cba), (0x1cbd, 0x1cbf)]

def sentenceLetter : CodeRanges :=
  .union [alphabetic.difference <| .union [sentenceLower, sentenceUpper, sentenceExtend],
    [(0x5f3, 0x5f3)]]

def fullStop : CodeRanges :=
  [(0x2e, 0x2e), (0x2024, 0x2024), (0xfe52, 0xfe52), (0xff0e, 0xff0e)]

def sentenceClose : CodeRanges :=
  .union [openPunctuation, closePunctuation, initialPunctuation, finalPunctuation,
    [(0x22, 0x22), (0x27, 0x27), (0x275b, 0x2760), (0x2e00, 0x2e01), (0x2e06, 0x2e08),
      (0x2e0b, 0x2e0b), (0x1f676, 0x1f678)]]

def sentenceContinue : CodeRanges :=
  [(0x2c, 0x2d), (0x3a, 0x3b), (0x37e, 0x37e), (0x55d, 0x55d), (0x60c, 0x60d), (0x7f8, 0x7f8),
    (0x1802, 0x1802), (0x1808, 0x1808), (0x2013, 0x2014), (0x3001, 0x3001), (0xfe10, 0xfe11),
    (0xfe13, 0xfe14), (0xfe31, 0xfe32), (0xfe50, 0xfe51), (0xfe54, 0xfe55), (0xfe58, 0xfe58),
    (0xfe63, 0xfe63), (0xff0c, 0xff0d), (0xff1a, 0xff1b), (0xff64, 0xff64)]

def sentence? : String → Option CodeRanges
  | "cr" => some carriageReturn
  | "lf" => some lineFeed
  | "se" | "sep" => some [(0x85, 0x85), (0x2028, 0x2029)]
  | "ex" | "extend" => some sentenceExtend
  | "fo" | "format" =>
      some (.union [[(0x200b, 0x200b)], wordFormat, [(0x70f, 0x70f)]])
  | "sp" => some (.union [[(0x09, 0x09), (0x0b, 0x0c)], spaceSeparator])
  | "lo" | "lower" => some sentenceLower
  | "up" | "upper" => some sentenceUpper
  | "le" | "oletter" => some sentenceLetter
  | "nu" | "numeric" => some (.union [numberPart, [(0x66c, 0x66c)]])
  | "at" | "aterm" => some fullStop
  | "sc" | "scontinue" => some sentenceContinue
  | "st" | "sterm" => some (sentenceTerminal.difference fullStop)
  | "cl" | "close" => some sentenceClose
  | _ => none

end Schemata.Text.Break
