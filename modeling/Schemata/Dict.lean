/-!
# Dictionaries

A dictionary is a list of entries in ascending order of their keys, with each key once.  Strings
are ordered by code points.
-/

namespace Schemata

universe u v

/-- Entries by key, in ascending order of the keys. -/
abbrev Dict (α : Type u) := List (String × α)

namespace Dict

variable {α : Type u} {β : Type v}

def get? (dict : Dict α) (key : String) : Option α :=
  (dict.find? fun entry => entry.1 == key).map Prod.snd

def contains (dict : Dict α) (key : String) : Bool :=
  dict.any fun entry => entry.1 == key

/-- Puts a value under a key, in place of the one that was there. -/
def insert : Dict α → String → α → Dict α
  | [], key, value => [(key, value)]
  | entry :: rest, key, value =>
      if key = entry.1 then (key, value) :: rest
      else if key < entry.1 then (key, value) :: entry :: rest
      else entry :: insert rest key value

/-- Puts every entry of the second dictionary into the first, the second one winning. -/
def merge (dict update : Dict α) : Dict α :=
  update.foldl (fun merged entry => insert merged entry.1 entry.2) dict

/-- The dictionary of some entries, a later one winning over an earlier one under its key. -/
def ofEntries (entries : List (String × α)) : Dict α :=
  merge [] entries

def keys (dict : Dict α) : List String :=
  dict.map Prod.fst

def mapValues (change : α → β) (dict : Dict α) : Dict β :=
  dict.map fun entry => (entry.1, change entry.2)

end Dict

end Schemata
