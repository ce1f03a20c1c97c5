import Schemata.Text.CaseFolding
import Schemata.Text.Emoji
import Schemata.Text.Letters
import Schemata.Text.Marks
import Schemata.Text.Properties
import Schemata.Text.Symbols

/-!
# Derived properties

The properties of characters that the Unicode character database, version 16, derives from others.
Each one is stated by its rule, with the few characters that the rule leaves out.
-/

namespace Schemata.Text.Property

open GeneralCategory

def letter : CodeRanges :=
  .union [uppercaseLetter, lowercaseLetter, titlecaseLetter, modifierLetter, otherLetter]

def mark : CodeRanges :=
  .union [nonspacingMark, spacingMark, enclosingMark]

def assigned : CodeRanges :=
  .union [letter, mark, decimalNumber, letterNumber, otherNumber, connectorPunctuation,
    dashPunctuation, openPunctuation, closePunctuation, initialPunctuation, finalPunctuation,
    otherPunctuation, mathSymbol, currencySymbol, modifierSymbol, otherSymbol, spaceSeparator,
    lineSeparator, paragraphSeparator, control, GeneralCategory.format, privateUse]

def unassigned : CodeRanges :=
  assigned.complement

def whiteSpace : CodeRanges :=
  .union [[(0x09, 0x0d), (0x85, 0x85)], spaceSeparator, lineSeparator, paragraphSeparator]

def alphabetic : CodeRanges :=
  .union [letter, letterNumber, otherAlphabetic]

def uppercase : CodeRanges :=
  .union [uppercaseLetter, otherUppercase]

def lowercase : CodeRanges :=
  .union [lowercaseLetter, otherLowercase]

def cased : CodeRanges :=
  .union [uppercase, lowercase, titlecaseLetter]

def midLetter : CodeRanges :=
  [(0x3a, 0x3a), (0xb7, 0xb7), (0x387, 0x387), (0x55f, 0x55f), (0x5f4, 0x5f4), (0x2027, 0x2027),
    (0xfe13, 0xfe13), (0xfe55, 0xfe55), (0xff1a, 0xff1a)]

def midNumberLetter : CodeRanges :=
  [(0x2e, 0x2e), (0x2018, 0x2019), (0x2024, 0x2024), (0xfe52, 0xfe52), (0xff07, 0xff07),
    (0xff0e, 0xff0e)]

def caseIgnorable : CodeRanges :=
  .union [nonspacingMark, enclosingMark, GeneralCategory.format, modifierLetter, modifierSymbol,
    midLetter, midNumberLetter, [(0x27, 0x27)]]

def changesWhenLowercased : CodeRanges :=
  .union [CaseFolding.sources.difference lowercase, [(0x130, 0x130), (0x13a0, 0x13f5)]]

/-- Characters that are not their own upper case.  Those listed become several characters. -/
def changesWhenUppercased : CodeRanges :=
  (CodeRanges.union [CaseFolding.targets, CaseFolding.sources.difference changesWhenLowercased,
    [(0x131, 0x131), (0x149, 0x149), (0x1c5, 0x1c5), (0x1c8, 0x1c8), (0x1cb, 0x1cb), (0x1f0, 0x1f0),
    (0x1f2, 0x1f2), (0x390, 0x390), (0x3b0, 0x3b0), (0x587, 0x587), (0x1e96, 0x1e9a),
    (0x1f50, 0x1f50), (0x1f52, 0x1f52), (0x1f54, 0x1f54), (0x1f56, 0x1f56), (0x1f88, 0x1f8f),
    (0x1f98, 0x1f9f), (0x1fa8, 0x1faf), (0x1fb2, 0x1fb2), (0x1fb4, 0x1fb4), (0x1fb6, 0x1fb7),
    (0x1fbc, 0x1fbc), (0x1fc2, 0x1fc2), (0x1fc4, 0x1fc4), (0x1fc6, 0x1fc7), (0x1fcc, 0x1fcc),
    (0x1fd2, 0x1fd3), (0x1fd6, 0x1fd7), (0x1fe2, 0x1fe4), (0x1fe6, 0x1fe7), (0x1ff2, 0x1ff2),
    (0x1ff4, 0x1ff4), (0x1ff6, 0x1ff7), (0x1ffc, 0x1ffc), (0xfb00, 0xfb06),
    (0xfb13, 0xfb17)]]).difference [(0x13a0, 0x13f5)]

def changesWhenTitlecased : CodeRanges :=
  (CodeRanges.union [changesWhenUppercased, [(0x1c4, 0x1c4), (0x1c7, 0x1c7), (0x1ca, 0x1ca),
    (0x1f1, 0x1f1)]]).difference
    [(0x1c5, 0x1c5), (0x1c8, 0x1c8), (0x1cb, 0x1cb), (0x1f2, 0x1f2), (0x10d0, 0x10fa),
    (0x10fd, 0x10ff), (0x1f88, 0x1f8f), (0x1f98, 0x1f9f), (0x1fa8, 0x1faf), (0x1fbc, 0x1fbc),
    (0x1fcc, 0x1fcc), (0x1ffc, 0x1ffc)]

def changesWhenCasefolded : CodeRanges :=
  (CodeRanges.union [CaseFolding.sources,
    [(0xdf, 0xdf), (0x130, 0x130), (0x149, 0x149), (0x587, 0x587), (0x1e9a, 0x1e9a),
    (0x1f80, 0x1f87), (0x1f90, 0x1f97), (0x1fa0, 0x1fa7), (0x1fb2, 0x1fb4), (0x1fb7, 0x1fb7),
    (0x1fc2, 0x1fc4), (0x1fc7, 0x1fc7), (0x1ff2, 0x1ff4), (0x1ff7, 0x1ff7), (0xfb00, 0xfb06),
    (0xfb13, 0xfb17)]]).difference [(0x1fbe, 0x1fbe), (0x1fd3, 0x1fd3), (0x1fe3, 0x1fe3)]

def changesWhenCasemapped : CodeRanges :=
  .union [changesWhenLowercased, changesWhenUppercased, changesWhenTitlecased]

def dash : CodeRanges :=
  .union [dashPunctuation, [(0x2053, 0x2053), (0x207b, 0x207b), (0x208b, 0x208b), (0x2212, 0x2212)]]

def defaultIgnorable : CodeRanges :=
  (CodeRanges.union [otherDefaultIgnorable, variationSelector,
    (GeneralCategory.format.difference prependedMark)]).difference
    [(0xfff9, 0xfffb), (0x13430, 0x1343f)]

def graphemeExtend : CodeRanges :=
  .union [nonspacingMark, enclosingMark, otherGraphemeExtend]

def graphemeBase : CodeRanges :=
  assigned.difference <| .union [control, GeneralCategory.format, privateUse, lineSeparator,
    paragraphSeparator, graphemeExtend]

def math : CodeRanges :=
  .union [mathSymbol, otherMath]

def formal : CodeRanges :=
  .union [patternSyntax, patternWhiteSpace]

def idStart : CodeRanges :=
  (CodeRanges.union [letter, letterNumber, otherIdStart]).difference formal

def idContinue : CodeRanges :=
  (CodeRanges.union [idStart, nonspacingMark, spacingMark, decimalNumber, connectorPunctuation,
    otherIdContinue]).difference formal

def closedIdStart : CodeRanges :=
  idStart.difference notClosedStart

def closedIdContinue : CodeRanges :=
  idContinue.difference notClosedContinue

def terminalPunctuation : CodeRanges :=
  .union [sentenceTerminal, innerTerminal]

/-- Word characters: alphabetic, marks, decimal digits, connectors and the two joiners. -/
def word : CodeRanges :=
  .union [alphabetic, mark, decimalNumber, connectorPunctuation, joinControl]

end Schemata.Text.Property
