import Schemata.Binary64.Layout
import Schemata.Regex.Reader
import Schemata.Regex.Search
import Schemata.SyntaxError
import Schemata.Text.Escaped
import Schemata.Value

/-!
# Validators

Conditions on typed values.  A validator passes every value of a kind it does not speak about.
-/

namespace Schemata

/-- A pattern that has been read as a regular expression. -/
structure Pattern where
  source : String
  regex : Regex
  parses : Regex.parse? source = some regex

/-- A condition on a typed value. -/
inductive Validator where
  | nonEmpty
  | nonFalsy
  | minLength (least : Nat)
  | maxLength (most : Nat)
  | intRange (low high : Int64)
  | floatRange (low high : Binary64)
  | email
  | url
  | uuid
  | pattern (matcher : Pattern)

namespace Pattern

def ofSource (source : String) : Except SyntaxError Pattern :=
  match parses : Regex.parse? source with
  | some regex => .ok { source, regex, parses }
  | none => .error (.unlocated (.invalidPattern source))

def isMatch (pattern : Pattern) (text : String) : Bool :=
  pattern.regex.isMatch text

end Pattern

namespace Validator

def matchesPattern (regex : Option Regex) (text : String) : Bool :=
  match regex with
  | some regex => regex.isMatch text
  | none => false

/-- Text on both sides of one at sign, and a point in the text behind it. -/
def emailRegex : Option Regex :=
  Regex.parse? "^[^@\\s]+@[^@\\s]+\\.[^@\\s.]+$"

/-- A scheme, two slashes, an authority and a rest without blanks. -/
def urlRegex : Option Regex :=
  Regex.parse? "^[a-zA-Z][a-zA-Z0-9+.-]*://[^\\s/?#]+[^\\s]*$"

/-- Groups of 8, 4, 4, 4 and 12 hexadecimal digits with hyphens between them. -/
def uuidRegex : Option Regex :=
  Regex.parse? ("^[0-9a-fA-F]\x7b8\x7d-[0-9a-fA-F]\x7b4\x7d-[0-9a-fA-F]\x7b4\x7d" ++
    "-[0-9a-fA-F]\x7b4\x7d-[0-9a-fA-F]\x7b12\x7d$")

def name : Validator → String
  | .nonEmpty => "non_empty"
  | .nonFalsy => "non_falsy"
  | .minLength _ => "min_length"
  | .maxLength _ => "max_length"
  | .intRange .. => "int_range"
  | .floatRange .. => "float_range"
  | .email => "email"
  | .url => "url"
  | .uuid => "uuid"
  | .pattern _ => "pattern"

def key (validator : Validator) : String :=
  "validator." ++ validator.name

def lengthMeets (value : Value) (condition : Nat → Bool) : Bool :=
  match value.length? with
  | some length => condition length
  | none => true

def textMeets (value : Value) (condition : String → Bool) : Bool :=
  match value.string? with
  | some text => condition text
  | none => true

def check (value : Value) : Validator → Bool
  | .nonEmpty => lengthMeets value (0 < ·)
  | .nonFalsy =>
      match value with
      | .string text => !text.isEmpty && text != "0"
      | other => lengthMeets other (0 < ·)
  | .minLength least => lengthMeets value (least ≤ ·)
  | .maxLength most => lengthMeets value (· ≤ most)
  | .intRange low high =>
      match value with
      | .int int => low ≤ int && int ≤ high
      | _ => true
  | .floatRange low high =>
      match value with
      | .float float => low.le float && float.le high
      | .int int =>
          let float := Binary64.ofInt int.toInt
          low.le float && float.le high
      | _ => true
  | .email => textMeets value (matchesPattern emailRegex)
  | .url => textMeets value (matchesPattern urlRegex)
  | .uuid => textMeets value (matchesPattern uuidRegex)
  | .pattern matcher => textMeets value matcher.isMatch

def payload (validator : Validator) : Json :=
  let parameters := match validator with
    | .minLength least => [("min", Json.ofNat least)]
    | .maxLength most => [("max", Json.ofNat most)]
    | .intRange low high => [("min", Json.ofInt64 low), ("max", Json.ofInt64 high)]
    | .floatRange low high => [("min", Json.ofBinary64 low), ("max", Json.ofBinary64 high)]
    | .pattern matcher => [("pattern", Json.string matcher.source)]
    | _ => []
  .ofMembers (("validator", .string validator.name) :: parameters)

/-- A bound, by a word where it is the least or the greatest integer. -/
def bound (value : Int64) : String :=
  if value = Int64.minValue then "min"
  else if value = Int64.maxValue then "max"
  else toString value.toInt

def display (validator : Validator) : String :=
  match validator with
  | .minLength least => s!"min_length({least})"
  | .maxLength most => s!"max_length({most})"
  | .intRange low high => s!"int_range({bound low}, {bound high})"
  | .floatRange low high => s!"float_range({low.typeText}, {high.typeText})"
  | .pattern matcher => s!"pattern({Text.Escaped.ofString matcher.source})"
  | _ => validator.name

/-- Whether two validators are equal.  Bounds are compared as numbers and patterns by their
sources. -/
def isEqual : Validator → Validator → Bool
  | .nonEmpty, .nonEmpty => true
  | .nonFalsy, .nonFalsy => true
  | .minLength least, .minLength least' => least == least'
  | .maxLength most, .maxLength most' => most == most'
  | .intRange low high, .intRange low' high' => low == low' && high == high'
  | .floatRange low high, .floatRange low' high' => low.numEq low' && high.numEq high'
  | .email, .email => true
  | .url, .url => true
  | .uuid, .uuid => true
  | .pattern matcher, .pattern matcher' => matcher.source == matcher'.source
  | _, _ => false

end Validator

end Schemata
