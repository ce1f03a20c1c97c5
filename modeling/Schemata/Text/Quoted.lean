/-!
# Quoted text

Text between single quotes, where a backslash precedes each quote and each backslash.
-/

namespace Schemata.Text.Quoted

def quote : Char := '\x27'

def escape : Char := '\\'

def escaped : List Char → List Char
  | [] => []
  | char :: rest =>
      if char = quote ∨ char = escape then escape :: char :: escaped rest
      else char :: escaped rest

def encode (text : List Char) : List Char :=
  quote :: escaped text ++ [quote]

end Schemata.Text.Quoted
