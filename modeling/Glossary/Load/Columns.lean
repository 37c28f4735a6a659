import Glossary.Sheet
import Glossary.Text.Blank
import Glossary.Text.Lower

set_option autoImplicit false

namespace Glossary

inductive Column where
  | id
  | term
  | definition
  | rank
  | tags
  | locales
  deriving DecidableEq, Repr

namespace Column

def name : Column → String
  | id => "entry_id"
  | term => "term"
  | definition => "definition"
  | rank => "rank"
  | tags => "tags"
  | locales => "locales"

/-- The names under which a column is accepted, the most wanted one first. -/
def aliases : Column → List String
  | id => ["entry_id", "id", "def_id", "defid"]
  | term => ["term", "word", "headword"]
  | definition => ["definition", "meaning", "description"]
  | rank => ["rank", "score"]
  | tags => ["tags", "tag"]
  | locales => ["locales", "locale"]

/-- All columns, in the order in which missing ones are named. -/
def all : List Column := [id, term, definition, rank, tags, locales]

def required : List Column := [id, term, definition]

/-- The alias by which a column goes among the given names, if it is there. -/
def aliasIn? (c : Column) (names : List String) : Option String :=
  c.aliases.find? fun a => names.contains a

end Column

def plainName (name : String) : String := Text.trim (Text.lower name)

/-- The standard name for a name that is the chosen alias of a column, any other name as it is. -/
def standardName (names : List String) (name : String) : String :=
  match Column.all.find? fun c => c.aliasIn? names == some name with
  | some c => c.name
  | none => name

/-- The names of columns, made comparable and with the chosen aliases replaced. -/
def standardColumns (columns : List String) : List String :=
  let names := columns.map plainName
  names.map (standardName names)

end Glossary
