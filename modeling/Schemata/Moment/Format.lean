import Schemata.Moment.Rfc3339
import Schemata.Moment.Writer
import Schemata.Text.Quoted

/-!
# Date and time formats

A format is RFC 3339 or a format description.  A description is looked into when a moment is read
or written with it, and a fault in it is an error of that reading or writing.
-/

namespace Schemata

inductive DateTimeFormat where
  | rfc3339
  | custom (description : String)
  deriving DecidableEq

namespace DateTimeFormat

/-- The format a setting names: the names of RFC 3339 in any case, or else a description. -/
def ofSetting (setting : String) : DateTimeFormat :=
  let name := setting.toList.map Char.toLower
  if name = "rfc3339".toList ∨ name = "atom".toList then .rfc3339 else .custom setting

def display : DateTimeFormat → String
  | .rfc3339 => "rfc3339"
  | .custom description => String.ofList (Text.Quoted.encode description.toList)

def read (text : String) : DateTimeFormat → Except Moment.ReadError Moment
  | .rfc3339 => Moment.Rfc3339.read text
  | .custom description =>
      match Description.parse description with
      | .ok description => Moment.read description text
      | .error error => .error (.badDescription error)

def write (moment : Moment) : DateTimeFormat → Except Moment.WriteError String
  | .rfc3339 => moment.writeRfc3339
  | .custom description =>
      match Description.parse description with
      | .ok description => .ok (moment.write description)
      | .error error => .error (.badDescription error)

end DateTimeFormat

end Schemata
