import Schemata.Text.Character

/-!
# Escaped text

Text between double quotes as a source file spells it: quotes, backslashes and the common control
codes have short escapes, and every other character without a visible form of its own is written
by its code point in hexadecimal.
-/

namespace Schemata.Text.Escaped

def quote : Char := '\x22'

def byCode (char : Char) : List Char :=
  '\\' :: 'u' :: '\x7b' :: Nat.toDigits 16 char.toNat ++ ['\x7d']

def encodeChar (char : Char) : List Char :=
  if char = '\x00' then ['\\', '0']
  else if char = '\t' then ['\\', 't']
  else if char = '\r' then ['\\', 'r']
  else if char = '\n' then ['\\', 'n']
  else if char = quote ∨ char = '\\' then ['\\', char]
  else if Character.isPrintable char && !Character.isGraphemeExtend char &&
      !Character.isFiller char then [char]
  else byCode char

def encode (text : List Char) : List Char :=
  quote :: text.flatMap encodeChar ++ [quote]

def ofString (text : String) : String :=
  String.ofList (encode text.toList)

def ofStrings (items : List String) : String :=
  "[" ++ String.intercalate ", " (items.map ofString) ++ "]"

end Schemata.Text.Escaped
