import Schemata.Text.Additions
import Schemata.Text.Letters
import Schemata.Text.Marks
import Schemata.Text.Properties
import Schemata.Text.Symbols

/-!
# Character classes

The classes of characters that names, blanks and printed text are made of, after version 17 of the
Unicode character database.  Each one is a union of general categories, so no class needs a table of
its own.
-/

namespace Schemata.Text.Character

open GeneralCategory

/-- White space: the tab to carriage return controls, the next line control and the separators. -/
def isBlank (char : Char) : Bool :=
  let code := char.toNat
  if code < 0x80 then code == 0x20 || (0x09 ≤ code && code ≤ 0x0d)
  else code == 0x85 || spaceSeparator.holds code || lineSeparator.holds code ||
    paragraphSeparator.holds code

def trimmed (text : List Char) : List Char :=
  ((text.dropWhile isBlank).reverse.dropWhile isBlank).reverse

def isDigit (char : Char) : Bool :=
  '0' ≤ char && char ≤ '9'

def isLetter (char : Char) : Bool :=
  let code := char.toNat
  lowercaseLetter.holds code || uppercaseLetter.holds code || otherLetter.holds code ||
    modifierLetter.holds code || titlecaseLetter.holds code

def isAlphabetic (char : Char) : Bool :=
  let code := char.toNat
  isLetter char || letterNumber.holds code || otherAlphabetic.holds code ||
    Added.letters.holds code

def isNumeric (char : Char) : Bool :=
  let code := char.toNat
  decimalNumber.holds code || letterNumber.holds code || otherNumber.holds code ||
    Added.digits.holds code

def isAlphanumeric (char : Char) : Bool :=
  isAlphabetic char || isNumeric char

def isMark (char : Char) : Bool :=
  let code := char.toNat
  nonspacingMark.holds code || spacingMark.holds code || enclosingMark.holds code ||
    Added.nonspacingMarks.holds code

def isGraphemeExtend (char : Char) : Bool :=
  let code := char.toNat
  nonspacingMark.holds code || enclosingMark.holds code || Added.nonspacingMarks.holds code ||
    (otherGraphemeExtend.holds code && !Added.soundMarks.holds code)

def isPunctuation (char : Char) : Bool :=
  let code := char.toNat
  connectorPunctuation.holds code || dashPunctuation.holds code || openPunctuation.holds code ||
    closePunctuation.holds code || initialPunctuation.holds code || finalPunctuation.holds code ||
    otherPunctuation.holds code

def isSymbol (char : Char) : Bool :=
  let code := char.toNat
  mathSymbol.holds code || currencySymbol.holds code || modifierSymbol.holds code ||
    otherSymbol.holds code || Added.symbols.holds code

def isPrintable (char : Char) : Bool :=
  if char.toNat < 0x80 then 0x20 ≤ char.toNat && char.toNat < 0x7f
  else isAlphanumeric char || isMark char || isPunctuation char || isSymbol char

/-- Fillers, which have a form but are shown as nothing. -/
def isFiller (char : Char) : Bool :=
  Property.otherDefaultIgnorable.holds char.toNat

end Schemata.Text.Character
