import Schemata.Text.Ages
import Schemata.Text.Breaks
import Schemata.Text.ScriptNames

/-!
# Named character sets

The sets that a pattern refers to by a letter or by a name: digits, blanks and word characters, the
bracketed ASCII classes, the general categories, the scripts, and the other properties of
characters.
-/

namespace Schemata.Regex

open Text Text.GeneralCategory Text.Property Text.Emoji

def digits (ascii : Bool) : CodeRanges :=
  if ascii then [(0x30, 0x39)] else decimalNumber

def blanks (ascii : Bool) : CodeRanges :=
  if ascii then [(0x09, 0x0d), (0x20, 0x20)] else whiteSpace

def wordChars (ascii : Bool) : CodeRanges :=
  if ascii then [(0x30, 0x39), (0x41, 0x5a), (0x5f, 0x5f), (0x61, 0x7a)] else word

def asciiClass? : String → Option CodeRanges
  | "alnum" => some [(0x30, 0x39), (0x41, 0x5a), (0x61, 0x7a)]
  | "alpha" => some [(0x41, 0x5a), (0x61, 0x7a)]
  | "ascii" => some [(0x00, 0x7f)]
  | "blank" => some [(0x09, 0x09), (0x20, 0x20)]
  | "cntrl" => some [(0x00, 0x1f), (0x7f, 0x7f)]
  | "digit" => some [(0x30, 0x39)]
  | "graph" => some [(0x21, 0x7e)]
  | "lower" => some [(0x61, 0x7a)]
  | "print" => some [(0x20, 0x7e)]
  | "punct" => some [(0x21, 0x2f), (0x3a, 0x40), (0x5b, 0x60), (0x7b, 0x7e)]
  | "space" => some [(0x09, 0x0d), (0x20, 0x20)]
  | "upper" => some [(0x41, 0x5a)]
  | "word" => some [(0x30, 0x39), (0x41, 0x5a), (0x5f, 0x5f), (0x61, 0x7a)]
  | "xdigit" => some [(0x30, 0x39), (0x41, 0x46), (0x61, 0x66)]
  | _ => none

def category? : String → Option CodeRanges
  | "lu" | "uppercaseletter" => some uppercaseLetter
  | "ll" | "lowercaseletter" => some lowercaseLetter
  | "lt" | "titlecaseletter" => some titlecaseLetter
  | "lc" | "casedletter" => some (.union [uppercaseLetter, lowercaseLetter, titlecaseLetter])
  | "lm" | "modifierletter" => some modifierLetter
  | "lo" | "otherletter" => some otherLetter
  | "l" | "letter" => some letter
  | "mn" | "nonspacingmark" => some nonspacingMark
  | "mc" | "spacingmark" => some spacingMark
  | "me" | "enclosingmark" => some enclosingMark
  | "m" | "mark" | "combiningmark" => some mark
  | "nd" | "decimalnumber" | "digit" => some decimalNumber
  | "nl" | "letternumber" => some letterNumber
  | "no" | "othernumber" => some otherNumber
  | "n" | "number" => some (.union [decimalNumber, letterNumber, otherNumber])
  | "pc" | "connectorpunctuation" => some connectorPunctuation
  | "pd" | "dashpunctuation" => some dashPunctuation
  | "ps" | "openpunctuation" => some openPunctuation
  | "pe" | "closepunctuation" => some closePunctuation
  | "pi" | "initialpunctuation" => some initialPunctuation
  | "pf" | "finalpunctuation" => some finalPunctuation
  | "po" | "otherpunctuation" => some otherPunctuation
  | "p" | "punctuation" | "punct" =>
      some (.union [connectorPunctuation, dashPunctuation, openPunctuation, closePunctuation,
        initialPunctuation, finalPunctuation, otherPunctuation])
  | "sm" | "mathsymbol" => some mathSymbol
  | "sc" | "currencysymbol" => some currencySymbol
  | "sk" | "modifiersymbol" => some modifierSymbol
  | "so" | "othersymbol" => some otherSymbol
  | "s" | "symbol" => some (.union [mathSymbol, currencySymbol, modifierSymbol, otherSymbol])
  | "zs" | "spaceseparator" => some spaceSeparator
  | "zl" | "lineseparator" => some lineSeparator
  | "zp" | "paragraphseparator" => some paragraphSeparator
  | "z" | "separator" => some (.union [spaceSeparator, lineSeparator, paragraphSeparator])
  | "cc" | "control" | "cntrl" => some control
  | "cf" | "format" => some GeneralCategory.format
  | "co" | "privateuse" => some privateUse
  | "any" => some [(0x00, 0x10ffff)]
  | "ascii" => some [(0x00, 0x7f)]
  | "assigned" => some assigned
  | "cn" | "unassigned" => some unassigned
  | "c" | "other" => some (.union [unassigned, control, GeneralCategory.format, privateUse])
  | _ => none

def binary? : String → Option CodeRanges
  | "asciihexdigit" | "ahex" => some asciiHexDigit
  | "alphabetic" | "alpha" => some alphabetic
  | "bidicontrol" | "bidic" => some bidiControl
  | "bidimirrored" | "bidim" => some bidiMirrored
  | "caseignorable" | "ci" => some caseIgnorable
  | "cased" => some cased
  | "changeswhencasefolded" | "cwcf" => some changesWhenCasefolded
  | "changeswhencasemapped" | "cwcm" => some changesWhenCasemapped
  | "changeswhenlowercased" | "cwl" => some changesWhenLowercased
  | "changeswhentitlecased" | "cwt" => some changesWhenTitlecased
  | "changeswhenuppercased" | "cwu" => some changesWhenUppercased
  | "dash" => some dash
  | "defaultignorablecodepoint" | "di" => some defaultIgnorable
  | "deprecated" | "dep" => some deprecated
  | "diacritic" | "dia" => some diacritic
  | "emoji" => some emoji
  | "emojicomponent" | "ecomp" => some emojiComponent
  | "emojimodifier" | "emod" => some emojiModifier
  | "emojimodifierbase" | "ebase" => some emojiModifierBase
  | "emojipresentation" | "epres" => some emojiPresentation
  | "extendedpictographic" | "extpict" => some extendedPictographic
  | "extender" | "ext" => some extender
  | "graphemebase" | "grbase" => some graphemeBase
  | "graphemeextend" | "grext" => some graphemeExtend
  | "graphemelink" | "grlink" => some graphemeLink
  | "hexdigit" | "hex" => some hexDigit
  | "hyphen" => some hyphen
  | "idsbinaryoperator" | "idsb" => some binaryDescriptor
  | "idstrinaryoperator" | "idst" => some trinaryDescriptor
  | "idsunaryoperator" | "idsu" => some unaryDescriptor
  | "idcompatmathcontinue" => some mathIdContinue
  | "idcompatmathstart" => some mathIdStart
  | "idcontinue" | "idc" => some idContinue
  | "idstart" | "ids" => some idStart
  | "ideographic" | "ideo" => some ideographic
  | "joincontrol" | "joinc" => some joinControl
  | "logicalorderexception" | "loe" => some logicalOrderException
  | "lowercase" | "lower" => some lowercase
  | "math" => some math
  | "modifiercombiningmark" | "mcm" => some modifierCombiningMark
  | "noncharactercodepoint" | "nchar" => some noncharacter
  | "otheralphabetic" | "oalpha" => some otherAlphabetic
  | "otherdefaultignorablecodepoint" | "odi" => some otherDefaultIgnorable
  | "othergraphemeextend" | "ogrext" => some otherGraphemeExtend
  | "otheridcontinue" | "oidc" => some otherIdContinue
  | "otheridstart" | "oids" => some otherIdStart
  | "otherlowercase" | "olower" => some otherLowercase
  | "othermath" | "omath" => some otherMath
  | "otheruppercase" | "oupper" => some otherUppercase
  | "patternsyntax" | "patsyn" => some patternSyntax
  | "patternwhitespace" | "patws" => some patternWhiteSpace
  | "prependedconcatenationmark" | "pcm" => some prependedMark
  | "quotationmark" | "qmark" => some quotationMark
  | "radical" => some radical
  | "regionalindicator" | "ri" => some regionalIndicator
  | "sentenceterminal" | "sterm" => some sentenceTerminal
  | "softdotted" | "sd" => some softDotted
  | "terminalpunctuation" | "term" => some terminalPunctuation
  | "unifiedideograph" | "uideo" => some unifiedIdeograph
  | "uppercase" | "upper" => some uppercase
  | "variationselector" | "vs" => some variationSelector
  | "whitespace" | "wspace" | "space" => some whiteSpace
  | "xidcontinue" | "xidc" => some closedIdContinue
  | "xidstart" | "xids" => some closedIdStart
  | _ => none

def script? (name : String) : Option CodeRanges :=
  (Script.named.find? fun entry => entry.1.contains name).map (·.2)

/-- The characters that are used with a script: those of the script and those that it shares, but
none that other scripts share. -/
def extendedScript? (name : String) : Option CodeRanges := do
  let (names, own) ← Script.named.find? fun entry => entry.1.contains name
  let (used, unused) := Script.shared.partition fun entry => entry.2.any names.contains
  return CodeRanges.difference (.union (own :: used.map (·.1))) (.union (unused.map (·.1)))

/-- The characters of a version and of those before it.  A version is named by its numbers, with a
point between them or a `v` before them. -/
def age? (name : String) : Option CodeRanges :=
  let isNamed := fun version : Nat × Nat × CodeRanges =>
    name == s!"{version.1}.{version.2.1}" || name == s!"v{version.1}{version.2.1}"
  match Age.versions.span (!isNamed ·) with
  | (earlier, version :: _) => some (.union ((earlier ++ [version]).map (·.2.2)))
  | (_, []) => none

/-- A name as names are compared: without `is` at its head, and without case, blanks, hyphens,
underscores and characters beyond ASCII.  The one name that would be left with a `c` alone, that of
ISO comments, stays whole. -/
def plainName (name : List Char) : String :=
  let body := match name with
    | first :: second :: rest =>
        if first.toLower = 'i' ∧ second.toLower = 's' then rest else name
    | _ => name
  let kept := body.filter fun char =>
    char != ' ' && char != '_' && char != '-' && char.toNat < 0x80
  let plain := String.ofList (kept.map Char.toLower)
  if body.length < name.length ∧ plain = "c" then "isc" else plain

def property? (name : List Char) : Option CodeRanges :=
  let plain := plainName name
  (binary? plain).or ((category? plain).or (script? plain))

def propertyValue? (name value : List Char) : Option CodeRanges :=
  let value := plainName value
  match plainName name with
  | "gc" | "generalcategory" => category? value
  | "sc" | "script" => script? value
  | "scx" | "scriptextensions" => extendedScript? value
  | "age" => age? value
  | "gcb" | "graphemeclusterbreak" => Break.cluster? value
  | "wb" | "wordbreak" => Break.word? value
  | "sb" | "sentencebreak" => Break.sentence? value
  | _ => none

end Schemata.Regex
